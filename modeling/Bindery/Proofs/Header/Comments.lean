import Bindery.Header.Documentation
import Mathlib.Data.List.Chain

set_option autoImplicit false
set_option relaxedAutoImplicit false

/-!
Where documentation comments end. A text closes a comment only where a slash follows a star, so what
has to be excluded is a relation between neighbours: inside a line it is excluded by pulling the two
apart, and between the pieces of a comment by the blanks and line breaks that stand there. Main
statement: a comment is closed once, at its end.
-/

namespace Bindery.Header

/-- Whether a text nowhere closes a comment. -/
def Unclosed (cs : List Char) : Prop := cs.IsChain fun a b => ¬ (a = '*' ∧ b = '/')

theorem head?_pullApart (cs : List Char) : (pullApart cs).head? = cs.head? := by
  unfold pullApart
  split <;> rfl

theorem unclosed_pullApart (cs : List Char) : Unclosed (pullApart cs) := by
  fun_induction pullApart cs with
  | case1 => exact .nil
  | case2 rest ih =>
    have after : Unclosed ('/' :: pullApart rest) := ih.cons fun b _ => by simp
    exact (after.cons_cons (by simp)).cons_cons (by simp)
  | case3 c rest apart ih =>
    refine ih.cons fun b next => ?_
    rw [head?_pullApart] at next
    rintro ⟨rfl, rfl⟩
    obtain ⟨later, rfl⟩ := List.head?_eq_some_iff.mp next
    exact apart later rfl rfl

theorem Unclosed.append {cs ds : List Char} (first : Unclosed cs) (second : Unclosed ds)
    (apart : cs.getLast? ≠ some '*' ∨ ds.head? ≠ some '/') : Unclosed (cs ++ ds) := by
  refine List.IsChain.append first second ?_
  rintro a last b next ⟨rfl, rfl⟩
  exact apart.elim (fun ne => ne last) (fun ne => ne next)

/-- What stands in a comment before the mark that closes it. -/
def commentFront (indent : String) (lines : List String) : String :=
  indent ++ "/*!\n" ++ String.join (lines.map (docLine indent)) ++ indent ++ " "

section Indent

variable {indent : String} (blank : ∀ c ∈ indent.toList, c = ' ')

include blank

theorem unclosed_indent : Unclosed indent.toList := by
  refine List.isChain_iff_forall_rel_of_append_cons_cons.mpr ?_
  rintro a b before after split ⟨rfl, -⟩
  have member : '*' ∈ indent.toList := by simp [split]
  exact absurd (blank '*' member) (by decide)

theorem Unclosed.indented {cs : List Char} (unclosed : Unclosed cs) :
    Unclosed (indent.toList ++ cs) := by
  refine (unclosed_indent blank).append unclosed (Or.inl ?_)
  intro last
  exact absurd (blank '*' (List.mem_of_getLast? last)) (by decide)

theorem unclosed_docLine (line : String) : Unclosed (docLine indent line).toList := by
  unfold docLine
  split
  case isTrue =>
    have spelled : (indent ++ " *\n").toList = indent.toList ++ [' ', '*', '\n'] := by simp
    have star : Unclosed [' ', '*', '\n'] := by simp [Unclosed]
    rw [spelled]
    exact star.indented blank
  case isFalse =>
    have spelled : (indent ++ " * " ++ String.ofList (pullApart line.toList) ++ "\n").toList =
        indent.toList ++ ([' ', '*', ' '] ++ (pullApart line.toList ++ ['\n'])) := by simp
    have written : Unclosed (pullApart line.toList ++ ['\n']) :=
      (unclosed_pullApart line.toList).append (.singleton _) (Or.inr (by simp))
    have star : Unclosed [' ', '*', ' '] := by simp [Unclosed]
    rw [spelled]
    -- A blank stands between the star and the line.
    exact (star.append written (Or.inl (by simp))).indented blank

omit blank in
theorem getLast?_docLine (line : String) : (docLine indent line).toList.getLast? = some '\n' := by
  unfold docLine
  split <;> rw [String.toList_append, List.getLast?_append] <;> rfl

theorem unclosed_docLines (lines : List String) {rest : List Char} (after : Unclosed rest) :
    Unclosed ((String.join (lines.map (docLine indent))).toList ++ rest) := by
  induction lines with
  | nil => simpa using after
  | cons line lines ih =>
    rw [List.map_cons, String.join_cons, String.toList_append, List.append_assoc]
    exact (unclosed_docLine blank line).append ih (Or.inl (by simp [getLast?_docLine]))

theorem unclosed_commentFront (lines : List String) :
    Unclosed ((commentFront indent lines).toList ++ ['*']) := by
  have opening : Unclosed "/*!\n".toList := by simp [Unclosed]
  have closing : Unclosed (indent.toList ++ [' ', '*']) :=
    .indented blank (by simp [Unclosed])
  have inside := opening.append (unclosed_docLines blank lines closing) (Or.inl (by simp))
  have spelled : (commentFront indent lines).toList ++ ['*'] =
      indent.toList ++ ("/*!\n".toList ++
        ((String.join (lines.map (docLine indent))).toList ++ (indent.toList ++ [' ', '*']))) := by
    simp [commentFront]
  rw [spelled]
  exact inside.indented blank

end Indent

/-- A text that closes nothing up to its last star is closed at that star only. -/
theorem eq_of_closes {body before after : List Char} (unclosed : Unclosed (body ++ ['*']))
    (closes : body ++ ['*', '/', '\n'] = before ++ '*' :: '/' :: after) :
    before = body ∧ after = ['\n'] := by
  rcases List.append_eq_append_iff.mp closes with ⟨middle, rfl, rest⟩ | ⟨middle, rfl, rest⟩
  · cases middle with
    | nil => simpa [eq_comm] using rest
    | cons c middle =>
      have lengths := congrArg List.length rest
      simp only [List.length_append, List.length_cons, List.length_nil] at lengths
      obtain rfl : middle = [] := List.eq_nil_of_length_eq_zero (by omega)
      simp at rest
  · cases middle with
    | nil => simpa using rest
    | cons c middle =>
      cases middle with
      | nil => simp at rest
      | cons d middle =>
        obtain ⟨rfl, rfl, -⟩ : '*' = c ∧ '/' = d ∧ _ := by simpa using rest
        have meets : Unclosed (before ++ '*' :: '/' :: (middle ++ ['*'])) := by simpa using unclosed
        exact absurd ⟨rfl, rfl⟩ (List.isChain_append_cons_cons.mp meets).2.1

theorem docBlock_eq {lines : List String} (documented : lines ≠ []) (indent : String) :
    docBlock indent lines = commentFront indent lines ++ "*/" ++ "\n" := by
  rw [docBlock, if_neg (by simpa using documented)]
  apply String.toList_injective
  simp [commentFront]

/-- A documentation comment opens at its front and is closed once, at its end. -/
theorem docBlock_closed_once {indent : String} {lines : List String}
    (blank : ∀ c ∈ indent.toList, c = ' ') (documented : lines ≠ []) :
    (∃ rest, docBlock indent lines = indent ++ "/*!" ++ rest) ∧
      ∃ body, docBlock indent lines = body ++ "*/" ++ "\n" ∧
        ∀ before after, docBlock indent lines = before ++ "*/" ++ after →
          before = body ∧ after = "\n" := by
  rw [docBlock_eq documented]
  refine ⟨⟨"\n" ++ String.join (lines.map (docLine indent)) ++ indent ++ " */\n", ?_⟩,
    commentFront indent lines, rfl, ?_⟩
  · apply String.toList_injective
    simp [commentFront]
  · intro before after closes
    have spelled : (commentFront indent lines).toList ++ ['*', '/', '\n'] =
        before.toList ++ '*' :: '/' :: after.toList := by
      simpa using congrArg String.toList closes
    obtain ⟨front, rest⟩ := eq_of_closes (unclosed_commentFront blank lines) spelled
    exact ⟨String.toList_injective front, String.toList_injective rest⟩

def starryLines : List String := ["**/", "*/*/", "*", "/", "", "a*\n/b", "*//*"]

theorem starryLines_closed_once :
    (∀ c ∈ "    ".toList, c = ' ') ∧ starryLines ≠ [] ∧
      ∃ body, docBlock "    " starryLines = body ++ "*/" ++ "\n" ∧
        ∀ before after, docBlock "    " starryLines = before ++ "*/" ++ after →
          before = body ∧ after = "\n" := by
  have blank : ∀ c ∈ "    ".toList, c = ' ' := by simp
  have documented : starryLines ≠ [] := by simp [starryLines]
  exact ⟨blank, documented, (docBlock_closed_once blank documented).2⟩

end Bindery.Header
