import Bindery.Proofs.Header.Words
import Mathlib.Data.List.SplitBy

set_option autoImplicit false
set_option relaxedAutoImplicit false

/-!
How C takes a line of declarations apart: into words, numbers and marks, and then along its
brackets. What stands between brackets is a list of pieces, one for each comma. Texts that do not
meet in the middle of a word are taken apart on their own, so the groups of a text follow from those
of its parts.
-/

namespace Bindery

theorem IsWord.unstarred {name : String} (word : IsWord name) : name.toList.head? ≠ some '*' := by
  intro star
  exact absurd (word.continuation '*' (List.mem_of_mem_head? star)) (by decide)

namespace Header.Reading

/-! ### Words, numbers and marks -/

inductive Lexeme where
  | word (text : String)
  | number (digits : String)
  | star
  | comma
  | opened (square : Bool)
  | closed (square : Bool)
  | stray (c : Char)
  deriving DecidableEq

def mark? : Char → Option Lexeme
  | ' ' => none
  | '*' => some .star
  | ',' => some .comma
  | '(' => some (.opened false)
  | ')' => some (.closed false)
  | '[' => some (.opened true)
  | ']' => some (.closed true)
  | c => some (.stray c)

/-- What a run of letters and digits or a single other character is to C. -/
def lexeme? : List Char → Option Lexeme
  | [] => none
  | c :: cs =>
    if c.isDigit then some (.number (String.ofList (c :: cs)))
    else if Text.Identifier.isAsciiStart c then some (.word (String.ofList (c :: cs)))
    else mark? c

def cohere (a b : Char) : Bool :=
  Text.Identifier.isAsciiContinue a && Text.Identifier.isAsciiContinue b

def lex (text : String) : List Lexeme := (text.toList.splitBy cohere).filterMap lexeme?

/-- No word goes on from a text to the next one. -/
def Apart (a b : String) : Prop :=
  ∀ x ∈ a.toList.getLast?, ∀ y ∈ b.toList.head?, cohere x y = false

theorem lex_append {a b : String} (apart : Apart a b) : lex (a ++ b) = lex a ++ lex b := by
  rw [lex, String.toList_append, List.splitBy_append apart, List.filterMap_append]
  rfl

theorem apart_of_first {a b : String} {c : Char} (first : b.toList.head? = some c)
    (mark : Text.Identifier.isAsciiContinue c = false) : Apart a b := by
  intro x _ y head
  obtain rfl : c = y := by simpa [first] using head
  simp [cohere, mark]

theorem apart_of_last {a b : String} {c : Char} (last : a.toList.getLast? = some c)
    (mark : Text.Identifier.isAsciiContinue c = false) : Apart a b := by
  intro x tail y _
  obtain rfl : c = x := by simpa [last] using tail
  simp [cohere, mark]

theorem lex_of_continuation {text : String} (continues : IsContinuation text) {c : Char}
    {cs : List Char} (chars : text.toList = c :: cs) : lex text = (lexeme? (c :: cs)).toList := by
  have whole : (c :: cs).splitBy cohere = [c :: cs] := by
    refine List.splitBy_of_isChain (by simp) (List.Pairwise.isChain ?_)
    refine List.pairwise_of_forall_mem_list fun x hx y hy => ?_
    have inWord (z : Char) (member : z ∈ c :: cs) : Text.Identifier.isAsciiContinue z = true :=
      (isAsciiContinue_iff z).mpr (continues z (chars ▸ member))
    simp [cohere, inWord x hx, inWord y hy]
  rw [lex, chars, whole, List.filterMap_cons]
  cases lexeme? (c :: cs) <;> rfl

theorem lex_word {text : String} (word : IsWord text) : lex text = [.word text] := by
  obtain ⟨c, cs, chars⟩ := List.exists_cons_of_ne_nil (l := text.toList) (by simpa using word.1)
  have plain : c.isDigit = false := by
    rw [← Bool.not_eq_true, isDigit_iff]
    exact word.2.2 c (by simp [chars])
  have letter : Text.Identifier.isAsciiStart c = true := by
    rw [isAsciiStart_iff]
    exact (word.continuation c (by simp [chars])).resolve_right (word.2.2 c (by simp [chars]))
  rw [lex_of_continuation word.continuation chars, lexeme?, if_neg (by simp [plain]), if_pos letter,
    ← chars, String.ofList_toList]
  rfl

theorem lex_toString (n : Nat) : lex (toString n) = [.number (toString n)] := by
  obtain ⟨c, cs, chars⟩ : ∃ c cs, (toString n).toList = c :: cs := by
    refine List.exists_cons_of_ne_nil ?_
    rw [Nat.toString_eq_repr, Nat.toList_repr]
    exact Nat.toDigits_ne_nil
  have digit : c.isDigit = true := by
    refine Nat.isDigit_of_mem_toDigits (b := 10) (n := n) (by decide) (by decide) ?_
    rw [← Nat.toList_repr, ← Nat.toString_eq_repr, chars]
    exact List.mem_cons_self
  rw [lex_of_continuation (isContinuation_toString n) chars, lexeme?, if_pos digit, ← chars,
    String.ofList_toList]
  rfl

/-! ### Brackets -/

inductive Tree where
  | word (text : String)
  | number (digits : String)
  | star
  | stray (c : Char)
  | group (square : Bool) (pieces : List (List Tree))

structure Opening where
  square : Bool
  pieces : List (List Tree)
  piece : List Tree

def nest (outer : List Opening) (pieces : List (List Tree)) (piece : List Tree) :
    List Lexeme → Option (List (List Tree))
  | [] => if outer.isEmpty then some (pieces ++ [piece]) else none
  | .word text :: rest => nest outer pieces (piece ++ [.word text]) rest
  | .number digits :: rest => nest outer pieces (piece ++ [.number digits]) rest
  | .star :: rest => nest outer pieces (piece ++ [.star]) rest
  | .stray c :: rest => nest outer pieces (piece ++ [.stray c]) rest
  | .comma :: rest => nest outer (pieces ++ [piece]) [] rest
  | .opened square :: rest => nest (⟨square, pieces, piece⟩ :: outer) [] [] rest
  | .closed square :: rest =>
    match outer with
    | [] => none
    | open' :: outer =>
      if open'.square = square then
        nest outer open'.pieces (open'.piece ++ [.group square (pieces ++ [piece])]) rest
      else none

/-- A text reads as some trees, wherever it stands. -/
def Groups (text : String) (trees : List Tree) : Prop :=
  ∀ outer pieces piece rest,
    nest outer pieces piece (lex text ++ rest) = nest outer pieces (piece ++ trees) rest

namespace Groups

theorem nest_eq {text : String} {trees : List Tree} (groups : Groups text trees) :
    nest [] [] [] (lex text) = some [trees] := by
  have whole := groups [] [] [] []
  rw [List.append_nil] at whole
  simp [whole, nest]

theorem empty : Groups "" [] := fun outer pieces piece rest => by
  rw [List.append_nil]
  rfl

theorem append {a b : String} {ts us : List Tree} (left : Groups a ts) (apart : Apart a b)
    (right : Groups b us) : Groups (a ++ b) (ts ++ us) := by
  intro outer pieces piece rest
  rw [lex_append apart, List.append_assoc, left, right, List.append_assoc]

theorem of_lex {text word : String} (lexed : lex text = [.word word]) :
    Groups text [.word word] := by
  intro outer pieces piece rest
  rw [lexed]
  rfl

theorem word {text : String} (isWord : IsWord text) : Groups text [.word text] :=
  .of_lex (lex_word isWord)

theorem number (n : Nat) : Groups (toString n) [.number (toString n)] := by
  intro outer pieces piece rest
  rw [lex_toString]
  rfl

end Groups

def GroupsAll (texts : List String) (pieces : List (List Tree)) : Prop :=
  List.Forall₂ Groups texts pieces

theorem nest_pieces {texts : List String} {pieces : List (List Tree)} (all : GroupsAll texts pieces)
    (filled : texts ≠ []) (outer : List Opening) (before : List (List Tree)) (rest : List Lexeme) :
    ∃ last, nest outer before [] (lex (", ".intercalate texts) ++ rest) =
      nest outer (before ++ pieces.dropLast) last rest ∧ pieces = pieces.dropLast ++ [last] := by
  induction all generalizing before with
  | nil => exact absurd rfl filled
  | @cons text piece texts pieces groups others ih =>
    cases others with
    | nil =>
      refine ⟨piece, ?_, rfl⟩
      have alone : ", ".intercalate [text] = text := by simp
      rw [alone, groups]
      simp
    | @cons second piece' texts pieces groups' others =>
      obtain ⟨last, step, split⟩ := ih (by simp) (before ++ [piece])
      refine ⟨last, ?_, ?_⟩
      · have several : ", ".intercalate (text :: second :: texts) =
            text ++ (", " ++ ", ".intercalate (second :: texts)) := by
          simp [← String.toList_inj]
        have comma : Apart text (", " ++ ", ".intercalate (second :: texts)) :=
          apart_of_first (c := ',') (by simp) (by decide)
        have blank : Apart ", " (", ".intercalate (second :: texts)) :=
          apart_of_last (c := ' ') (by simp) (by decide)
        have mark : lex ", " = [.comma] := by decide
        rw [several, lex_append comma, lex_append blank, mark, List.append_assoc, groups,
          List.append_assoc, List.nil_append, List.singleton_append, nest, step]
        simp
      · rw [List.dropLast_cons_of_ne_nil (by simp), List.cons_append, ← split]

def leftBracket (square : Bool) : String := if square then "[" else "("

def rightBracket (square : Bool) : String := if square then "]" else ")"

theorem Groups.bracketed (square : Bool) {texts : List String} {pieces : List (List Tree)}
    (all : GroupsAll texts pieces) (filled : texts ≠ []) :
    Groups (leftBracket square ++ ", ".intercalate texts ++ rightBracket square)
      [.group square pieces] := by
  intro outer before piece rest
  have opening : Apart (leftBracket square) (", ".intercalate texts ++ rightBracket square) := by
    cases square
    · exact apart_of_last (c := '(') (by decide) (by decide)
    · exact apart_of_last (c := '[') (by decide) (by decide)
  have closing : Apart (", ".intercalate texts) (rightBracket square) := by
    cases square
    · exact apart_of_first (c := ')') (by decide) (by decide)
    · exact apart_of_first (c := ']') (by decide) (by decide)
  have left : lex (leftBracket square) = [.opened square] := by cases square <;> decide
  have right : lex (rightBracket square) = [.closed square] := by cases square <;> decide
  obtain ⟨last, step, split⟩ :=
    nest_pieces all filled (⟨square, before, piece⟩ :: outer) [] ([.closed square] ++ rest)
  rw [String.append_assoc, lex_append opening, lex_append closing, left, right, List.append_assoc,
    List.singleton_append, nest, List.append_assoc, step, List.nil_append,
    List.singleton_append, nest, if_pos rfl, ← split]

theorem Groups.enclosed (square : Bool) {text : String} {trees : List Tree}
    (groups : Groups text trees) :
    Groups (leftBracket square ++ text ++ rightBracket square) [.group square [trees]] := by
  have alone : ", ".intercalate [text] = text := by simp
  have bracketed := Groups.bracketed square (.cons groups .nil) (by simp)
  rwa [alone] at bracketed

end Header.Reading

end Bindery
