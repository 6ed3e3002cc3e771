import Bindery.Proofs.Generate
import Mathlib.Data.List.DropRight

set_option autoImplicit false
set_option relaxedAutoImplicit false

/-!
Documentation read back. A literal between triple quotes goes on to the next three quotes in a row
of which none is escaped. A written line has no such three, but quotes at its end run into the
quotes that close the literal, which then ends early. Main statement: documentation of several lines
is always read back, and a single line exactly if the quotes at its end come in threes.
-/

namespace Bindery.Loader

/-- What a backslash stands for together with the character after it. Escapes by number and by name
go on after that character and are not read. -/
def unescaped? : Char → Option (List Char)
  | '\n' => some []
  | '\\' => some ['\\']
  | '"' => some ['"']
  | '\x27' => some ['\x27']
  | 'a' => some ['\x07']
  | 'b' => some ['\x08']
  | 'f' => some ['\x0c']
  | 'n' => some ['\n']
  | 'r' => some ['\r']
  | 't' => some ['\t']
  | 'v' => some ['\x0b']
  | c => if "01234567xNuU".toList.contains c then none else some ['\\', c]

def behind (text : List Char) (literal : Option (List Char × List Char)) :
    Option (List Char × List Char) :=
  literal.map fun (value, rest) => (text ++ value, rest)

def body? : List Char → Option (List Char × List Char)
  | [] => none
  | '"' :: '"' :: '"' :: rest => some ([], rest)
  | '\\' :: c :: rest => (unescaped? c).bind fun text => behind text (body? rest)
  | c :: rest => behind [c] (body? rest)

def literal? : List Char → Option (List Char × List Char)
  | '"' :: '"' :: '"' :: rest => body? rest
  | _ => none

def indented (indent line : String) : String := if line.isEmpty then "" else indent ++ line

/-- What documentation says: its lines, those after the first one indented unless they are blank,
and an indented end if there are several. -/
def docValue (indent : String) : List String → String
  | [] => ""
  | [line] => line
  | first :: rest =>
    "\n".intercalate (first :: rest.map (indented indent)) ++ "\n" ++ indent

def lastQuotes (line : String) : List Char := line.toList.rtakeWhile (· == '"')

/-! ### Writing -/

def written (text : List Char) : List Char := escapeTriples (doubleBackslashes text)

def quotes : List Char := ['"', '"', '"']

theorem written_triple (rest : List Char) :
    written ('"' :: '"' :: '"' :: rest) =
      '\\' :: '"' :: '\\' :: '"' :: '\\' :: '"' :: written rest := by
  simp [written, doubleBackslashes, escapeTriples]

theorem written_backslash (rest : List Char) :
    written ('\\' :: rest) = '\\' :: '\\' :: written rest := by
  simp [written, doubleBackslashes, escapeTriples]

theorem doubleBackslashes_quote {text rest : List Char}
    (quote : doubleBackslashes text = '"' :: rest) :
    ∃ later, text = '"' :: later ∧ doubleBackslashes later = rest := by
  cases text with
  | nil => simp [doubleBackslashes] at quote
  | cons c later =>
    by_cases slash : c = '\\'
    · subst slash
      simp [doubleBackslashes] at quote
    · obtain ⟨rfl, same⟩ : c = '"' ∧ doubleBackslashes later = rest := by
        simpa [doubleBackslashes, slash] using quote
      exact ⟨later, rfl, same⟩

theorem written_cons {c : Char} {rest : List Char} (plain : c ≠ '\\')
    (few : ¬ quotes <+: c :: rest) :
    written (c :: rest) = c :: written rest := by
  have doubled : doubleBackslashes (c :: rest) = c :: doubleBackslashes rest := by
    simp [doubleBackslashes]
  rw [written, doubled, escapeTriples, written]
  intro later quote second
  obtain ⟨third, rfl, same⟩ := doubleBackslashes_quote second
  obtain ⟨fourth, rfl, -⟩ := doubleBackslashes_quote same
  exact few ⟨fourth, by simp [quotes, quote]⟩

/-- Text is written piece by piece: three quotes, a backslash, or any other character. -/
theorem written_induction {P : List Char → Prop} (nil : P [])
    (triple : ∀ rest, P rest → P ('"' :: '"' :: '"' :: rest))
    (backslash : ∀ rest, P rest → P ('\\' :: rest))
    (plain : ∀ c rest, c ≠ '\\' → ¬ quotes <+: c :: rest → P rest → P (c :: rest))
    (text : List Char) : P text := by
  induction size : text.length using Nat.strongRecOn generalizing text with
  | _ n ih =>
    subst size
    cases text with
    | nil => exact nil
    | cons c rest =>
      have shorter : ∀ later : List Char, later.length < rest.length + 1 → P later :=
        fun later short => ih _ short later rfl
      by_cases three : quotes <+: c :: rest
      · obtain ⟨later, split⟩ := three
        obtain ⟨rfl, rfl⟩ : '"' = c ∧ '"' :: '"' :: later = rest := by simpa [quotes] using split
        exact triple later (shorter later (by simp; omega))
      · by_cases slash : c = '\\'
        · exact slash ▸ backslash rest (shorter rest (by omega))
        · exact plain c rest slash three (shorter rest (by omega))

theorem written_quote {text rest : List Char} (quote : written text = '"' :: rest) :
    ∃ later, text = '"' :: later ∧ written later = rest := by
  induction text using written_induction with
  | nil => simp [written, doubleBackslashes, escapeTriples] at quote
  | triple later _ => simp [written_triple] at quote
  | backslash later _ => simp [written_backslash] at quote
  | plain c later slash few _ =>
    obtain ⟨rfl, same⟩ : c = '"' ∧ written later = rest := by
      simpa [written_cons slash few] using quote
    exact ⟨later, rfl, same⟩

theorem getLast?_written (text : List Char) : (written text).getLast? = text.getLast? := by
  induction text using written_induction with
  | nil => rfl
  | triple rest ih => simp [written_triple, List.getLast?_cons, ih]
  | backslash rest ih => simp [written_backslash, List.getLast?_cons, ih]
  | plain c rest slash few ih => simp [written_cons slash few, List.getLast?_cons, ih]

theorem quotes_append {c : Char} {text more : List Char} (three : quotes <+: c :: text ++ more) :
    quotes <+: c :: text ∨ (c :: text).getLast? = some '"' ∧ more.head? = some '"' := by
  obtain ⟨later, split⟩ := three
  match text with
  | [] =>
    obtain ⟨rfl, rfl⟩ : '"' = c ∧ '"' :: '"' :: later = more := by simpa [quotes] using split
    exact .inr ⟨rfl, rfl⟩
  | [d] =>
    obtain ⟨rfl, rfl, rfl⟩ : '"' = c ∧ '"' = d ∧ '"' :: later = more := by
      simpa [quotes] using split
    exact .inr ⟨rfl, rfl⟩
  | d :: e :: text =>
    obtain ⟨rfl, rfl, rfl, -⟩ : '"' = c ∧ '"' = d ∧ '"' = e ∧ later = text ++ more := by
      simpa [quotes] using split
    exact .inl ⟨text, rfl⟩

theorem getLast?_ne_of_cons {c d : Char} {rest : List Char} (last : (c :: rest).getLast? ≠ some d) :
    rest.getLast? ≠ some d := by
  intro same
  simp [List.getLast?_cons, same] at last

/-- Text that does not end with a quote is written apart from what follows. -/
theorem written_append {text : List Char} (last : text.getLast? ≠ some '"') (more : List Char) :
    written (text ++ more) = written text ++ written more := by
  induction text using written_induction with
  | nil => rfl
  | triple rest ih =>
    have inner := getLast?_ne_of_cons (getLast?_ne_of_cons (getLast?_ne_of_cons last))
    simp only [List.cons_append, written_triple, ih inner]
  | backslash rest ih =>
    simp only [List.cons_append, written_backslash, ih (getLast?_ne_of_cons last)]
  | plain c rest slash few ih =>
    have still : ¬ quotes <+: c :: (rest ++ more) := fun three =>
      (quotes_append three).elim few fun ends => last ends.1
    rw [List.cons_append, written_cons slash still, written_cons slash few,
      ih (getLast?_ne_of_cons last), List.cons_append]

/-! ### Reading -/

@[simp]
theorem behind_nil (literal : Option (List Char × List Char)) : behind [] literal = literal := by
  cases literal <;> rfl

@[simp]
theorem behind_behind (first second : List Char) (literal : Option (List Char × List Char)) :
    behind first (behind second literal) = behind (first ++ second) literal := by
  cases literal <;> simp [behind]

theorem body?_quote (rest : List Char) :
    body? ('\\' :: '"' :: rest) = behind ['"'] (body? rest) := by
  simp [body?, unescaped?]

theorem body?_backslash (rest : List Char) :
    body? ('\\' :: '\\' :: rest) = behind ['\\'] (body? rest) := by
  simp [body?, unescaped?]

theorem body?_cons {c : Char} {rest : List Char} (plain : c ≠ '\\') (few : ¬ quotes <+: c :: rest) :
    body? (c :: rest) = behind [c] (body? rest) := by
  rw [body?]
  · rintro later rfl rfl
    exact few ⟨later, rfl⟩
  · exact fun d later slash => absurd slash plain

theorem body?_plain {text : List Char} (plain : ∀ c ∈ text, c ≠ '"' ∧ c ≠ '\\') (rest : List Char) :
    body? (text ++ rest) = behind text (body? rest) := by
  induction text with
  | nil => simp
  | cons c text ih =>
    obtain ⟨noQuote, noSlash⟩ := plain c List.mem_cons_self
    have few : ¬ quotes <+: c :: (text ++ rest) := fun three =>
      noQuote (List.cons_prefix_cons.mp three).1.symm
    rw [List.cons_append, body?_cons noSlash few, ih fun d member => plain d
      (List.mem_cons_of_mem _ member), behind_behind]
    rfl

/-- A written text is read back, unless quotes at its end are followed by further ones. -/
theorem body?_written {text rest : List Char}
    (apart : text.getLast? ≠ some '"' ∨ rest.head? ≠ some '"') :
    body? (written text ++ rest) = behind text (body? rest) := by
  induction text using written_induction with
  | nil => simp [written, doubleBackslashes, escapeTriples]
  | triple text ih =>
    have inner := ih (apart.imp_left fun last =>
      getLast?_ne_of_cons (getLast?_ne_of_cons (getLast?_ne_of_cons last)))
    simp only [written_triple, List.cons_append, body?_quote, inner, behind_behind]
    rfl
  | backslash text ih =>
    have inner := ih (apart.imp_left getLast?_ne_of_cons)
    simp only [written_backslash, List.cons_append, body?_backslash, inner, behind_behind]
    rfl
  | plain c text slash few ih =>
    have inner := ih (apart.imp_left getLast?_ne_of_cons)
    -- Three quotes in a row would have to begin in the text.
    have still : ¬ quotes <+: c :: (written text ++ rest) := by
      intro three
      rcases quotes_append three with ⟨later, split⟩ | ⟨last, follows⟩
      · obtain ⟨rfl, second⟩ : '"' = c ∧ '"' :: '"' :: later = written text := by
          simpa [quotes] using split
        obtain ⟨third, rfl, same⟩ := written_quote second.symm
        obtain ⟨fourth, rfl, -⟩ := written_quote same
        exact few ⟨fourth, rfl⟩
      · rw [← written_cons slash few, getLast?_written] at last
        exact apart.elim (· last) (· follows)
    rw [written_cons slash few, List.cons_append, body?_cons slash still, inner, behind_behind]
    rfl

/-! ### Documentation -/

theorem toList_escaped (line : String) : (escaped line).toList = written line.toList := by
  simp [escaped, written]

/-- Quotes at the end of a line are read in threes; what is left over closes the literal early. -/
theorem body?_replicate (triples : Nat) {spare : Nat} (few : spare < 3) (rest : List Char) :
    body? (written (List.replicate (3 * triples + spare) '"') ++ (quotes ++ rest)) =
      some (List.replicate (3 * triples) '"', List.replicate spare '"' ++ rest) := by
  induction triples with
  | zero =>
    match spare with
    | 0 => rfl
    | 1 => rfl
    | 2 => rfl
  | succ triples ih =>
    have more (n : Nat) : List.replicate (n + 3) '"' =
        '"' :: '"' :: '"' :: List.replicate n '"' := rfl
    have count : 3 * (triples + 1) + spare = 3 * triples + spare + 3 := by omega
    rw [count, more, written_triple]
    simp only [List.cons_append, body?_quote, ih]
    rfl

theorem lastQuotes_eq (line : String) :
    lastQuotes line = List.replicate (lastQuotes line).length '"' := by
  refine List.eq_replicate_iff.mpr ⟨rfl, fun c member => ?_⟩
  simpa using List.mem_rtakeWhile_imp member

theorem body?_line (line : String) (rest : List Char) :
    body? (written line.toList ++ (quotes ++ rest)) =
      some (line.toList.rdropWhile (· == '"') ++
        List.replicate (3 * ((lastQuotes line).length / 3)) '"',
        List.replicate ((lastQuotes line).length % 3) '"' ++ rest) := by
  have split : line.toList.rdropWhile (· == '"') ++ lastQuotes line = line.toList :=
    List.rdropWhile_append_rtakeWhile
  have last : (line.toList.rdropWhile (· == '"')).getLast? ≠ some '"' := by
    intro same
    have nonempty : line.toList.rdropWhile (· == '"') ≠ [] := by
      intro none
      simp [none] at same
    rw [List.getLast?_eq_some_getLast nonempty, Option.some.injEq] at same
    exact List.rdropWhile_last_not _ _ nonempty (by simp [same])
  have count := Nat.div_add_mod (lastQuotes line).length 3
  have ending := body?_replicate ((lastQuotes line).length / 3)
    (Nat.mod_lt (lastQuotes line).length (by decide)) rest
  rw [count, ← lastQuotes_eq] at ending
  rw [← split, written_append last, List.append_assoc, body?_written (.inl last), ending, split]
  rfl

theorem body?_line_iff (line : String) (rest : List Char) :
    body? (written line.toList ++ (quotes ++ rest)) = some (line.toList, rest) ↔
      3 ∣ (lastQuotes line).length := by
  rw [body?_line, Option.some.injEq, Prod.mk.injEq]
  constructor
  · rintro ⟨-, same⟩
    have none := congrArg List.length same
    rw [List.length_append, List.length_replicate] at none
    omega
  · intro threes
    have count : 3 * ((lastQuotes line).length / 3) = (lastQuotes line).length := by omega
    have none : (lastQuotes line).length % 3 = 0 := by omega
    rw [count, none, ← lastQuotes_eq]
    exact ⟨List.rdropWhile_append_rtakeWhile, rfl⟩

theorem body?_newline (rest : List Char) : body? ('\n' :: rest) = behind ['\n'] (body? rest) :=
  body?_cons (by decide) (by simp [quotes])

theorem body?_docLine {indent : String} (plain : ∀ c ∈ indent.toList, c ≠ '"' ∧ c ≠ '\\')
    (line : String) (rest : List Char) :
    body? ((docLine indent line).toList ++ rest) =
      behind ((indented indent line).toList ++ ['\n']) (body? rest) := by
  by_cases blank : line.isEmpty
  · simpa [docLine, indented, blank] using body?_newline rest
  · have text : (docLine indent line).toList ++ rest =
        indent.toList ++ (written line.toList ++ '\n' :: rest) := by
      simp [docLine, blank, toList_escaped]
    rw [text, body?_plain plain, body?_written (.inr (by simp)), body?_newline, behind_behind,
      behind_behind]
    simp [indented, blank]

theorem body?_docLines {indent : String} (plain : ∀ c ∈ indent.toList, c ≠ '"' ∧ c ≠ '\\')
    (lines : List String) (rest : List Char) :
    body? ((String.join (lines.map (docLine indent))).toList ++ rest) =
      behind ((lines.map (indented indent)).flatMap fun line => line.toList ++ ['\n'])
        (body? rest) := by
  induction lines with
  | nil => simp
  | cons line lines ih =>
    rw [List.map_cons, String.join_cons, String.toList_append, List.append_assoc,
      body?_docLine plain, ih, behind_behind, List.map_cons, List.flatMap_cons]

theorem toList_intercalate_newline (first : String) (more : List String) :
    ("\n".intercalate (first :: more)).toList ++ ['\n'] =
      (first :: more).flatMap fun line => line.toList ++ ['\n'] := by
  induction more generalizing first with
  | nil => simp
  | cons second more ih =>
    rw [String.intercalate_cons_cons, List.flatMap_cons, ← ih second]
    simp

theorem body?_several {indent : String} (plain : ∀ c ∈ indent.toList, c ≠ '"' ∧ c ≠ '\\')
    (first second : String) (lines : List String) (rest : List Char) :
    body? (written first.toList ++ '\n' ::
        ((String.join ((second :: lines).map (docLine indent))).toList ++
          (indent.toList ++ (quotes ++ rest)))) =
      some ((docValue indent (first :: second :: lines)).toList, rest) := by
  have closed : body? (quotes ++ rest) = some ([], rest) := rfl
  have value : (docValue indent (first :: second :: lines)).toList =
      first.toList ++ ['\n'] ++
        ((second :: lines).map (indented indent)).flatMap (fun line => line.toList ++ ['\n']) ++
        indent.toList := by
    have joined := toList_intercalate_newline first ((second :: lines).map (indented indent))
    rw [List.flatMap_cons] at joined
    rw [docValue, String.toList_append, String.toList_append, ← joined]
    · rfl
    · simp
  rw [body?_written (.inr (by simp)), body?_newline, body?_docLines plain,
    body?_plain plain, closed, value]
  simp [behind]

/-- Documentation with an indent in front of it is one literal and a line break, and the literal
says what the lines say, exactly if there are several lines or the quotes at the end of the only one
come in threes. -/
theorem docString_read_iff {indent : String} (plain : ∀ c ∈ indent.toList, c ≠ '"' ∧ c ≠ '\\')
    {lines : List String} (documented : lines ≠ []) :
    ∃ text, (docString indent lines).toList = indent.toList ++ text ∧
      (literal? text = some ((docValue indent lines).toList, ['\n']) ↔
        ∀ line, lines = [line] → 3 ∣ (lastQuotes line).length) := by
  match lines with
  | [line] =>
    refine ⟨quotes ++ (written line.toList ++ (quotes ++ ['\n'])), ?_, ?_⟩
    · simp [docString, quotes, toList_escaped]
    · have opened : literal? (quotes ++ (written line.toList ++ (quotes ++ ['\n']))) =
          body? (written line.toList ++ (quotes ++ ['\n'])) := rfl
      rw [opened, docValue, body?_line_iff]
      simp
  | first :: second :: rest =>
    refine ⟨quotes ++ (written first.toList ++ '\n' ::
      ((String.join ((second :: rest).map (docLine indent))).toList ++
        (indent.toList ++ (quotes ++ ['\n'])))), ?_, ?_⟩
    · simp [docString, quotes, toList_escaped]
    · have read := body?_several plain first second rest ['\n']
      exact ⟨fun _ line single => by simp at single, fun _ => read⟩

def quotation : List String := ["says \"\"\" and \\ too\"", "", "ends with two\"\""]

theorem quotation_read :
    (∃ text, (docString "    " quotation).toList = "    ".toList ++ text ∧
      literal? text = some ((docValue "    " quotation).toList, ['\n'])) ∧
    ∃ text, (docString "    " ["a \"word\"\"\""]).toList = "    ".toList ++ text ∧
      literal? text = some ("a \"word\"\"\"".toList, ['\n']) := by
  have plain : ∀ c ∈ "    ".toList, c ≠ '"' ∧ c ≠ '\\' := by simp
  constructor
  · obtain ⟨text, spelled, read⟩ := docString_read_iff plain (by decide : quotation ≠ [])
    exact ⟨text, spelled, read.mpr fun line single => by simp [quotation] at single⟩
  · obtain ⟨text, spelled, read⟩ := docString_read_iff plain (by decide : ["a \"word\"\"\""] ≠ [])
    refine ⟨text, spelled, read.mpr fun line single => ?_⟩
    obtain rfl : "a \"word\"\"\"" = line := by simpa using single
    decide +kernel

def greeting : Items where
  structs := [{ name := "greeting", docs := ["say \"hi\""] }]

theorem greeting_closed_early :
    (generateMain bareEnvironment {} greeting .python []).2.result =
        .ok (moduleText {} (statements {} greeting)) ∧
      Statement.opened "greeting" ["say \"hi\""] ∈ statements {} greeting ∧
      (Statement.opened "greeting" ["say \"hi\""]).spell =
        "\n\nclass greeting(ct.Structure):\n" ++ docString "    " ["say \"hi\""] ∧
      (docString "    " ["say \"hi\""]).toList = "    ".toList ++
        "\"\"\"say \"hi\"\"\"\"\n".toList ∧
      literal? "\"\"\"say \"hi\"\"\"\"\n".toList = some ("say \"hi".toList, "\"\n".toList) := by
  have valid : greeting.validated.result = .ok greeting := rfl
  refine ⟨?_, ?_, rfl, by decide +kernel, by decide +kernel⟩
  · rw [generateMain_python_ok rfl valid rfl, file_eq]
  · simp [statements, greeting, structDocs]

end Bindery.Loader
