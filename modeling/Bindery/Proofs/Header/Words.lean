import Bindery.Proofs.Outcome

set_option autoImplicit false
set_option relaxedAutoImplicit false

/-!
Words of C. A word is made of letters and digits and does not begin with a digit; putting pieces of
words behind a word gives a word again. The names that the headers make up are such words: types are
spelled with the characters of words only, and every made-up name has a piece that no keyword of any
edition has. Only the guards, which begin with the name of the files, can fail to be words.
-/

namespace Bindery

/-! ### Words -/

instance (c : Char) : Decidable (IsLetter c) :=
  decidable_of_iff (Text.Identifier.isAsciiStart c = true) (isAsciiStart_iff c)

/-- Letters and digits, as they may stand behind the beginning of a word. -/
def IsContinuation (text : String) : Prop :=
  ∀ c ∈ text.toList, IsLetter c ∨ ('0' ≤ c ∧ c ≤ '9')

theorem all_isAsciiContinue_iff (text : String) :
    text.toList.all Text.Identifier.isAsciiContinue = true ↔ IsContinuation text := by
  rw [List.all_eq_true]
  exact forall_congr' fun c => imp_congr_right fun _ => isAsciiContinue_iff c

instance (text : String) : Decidable (IsContinuation text) :=
  decidable_of_iff (text.toList.all Text.Identifier.isAsciiContinue = true)
    (all_isAsciiContinue_iff text)

def IsWord (name : String) : Prop := name ≠ "" ∧ FrontsNames name

@[simp]
theorem isContinuation_append {a b : String} :
    IsContinuation (a ++ b) ↔ IsContinuation a ∧ IsContinuation b := by
  simp [IsContinuation, or_imp, forall_and]

theorem IsWord.continuation {name : String} (word : IsWord name) : IsContinuation name := word.2.1

theorem FrontsNames.append_word {a b : String} (front : FrontsNames a) (word : IsWord b) :
    IsWord (a ++ b) := by
  refine ⟨by simp [word.1], isContinuation_append.mpr ⟨front.1, word.2.1⟩, fun c first => ?_⟩
  rw [String.toList_append, List.head?_append] at first
  cases head : a.toList.head? with
  | none => exact word.2.2 c (by simpa [head] using first)
  | some d => exact front.2 c (by simpa [head] using first)

theorem IsWord.append {a b : String} (word : IsWord a) (more : IsContinuation b) :
    IsWord (a ++ b) := by
  refine ⟨by simp [word.1], isContinuation_append.mpr ⟨word.2.1, more⟩, fun c first => ?_⟩
  obtain ⟨d, rest, chars⟩ := List.exists_cons_of_ne_nil (l := a.toList) (by simpa using word.1)
  refine word.2.2 c ?_
  simpa [chars] using first

theorem not_digit_of_isLetter {c : Char} (letter : IsLetter c) : ¬ ('0' ≤ c ∧ c ≤ '9') := by
  simp only [IsLetter, Char.le_def, UInt32.le_iff_toNat_le] at letter ⊢
  rcases letter with upper | lower | rfl
  · simp at upper ⊢; omega
  · simp at lower ⊢; omega
  · decide

theorem isWord_of_isName {name : String} (named : IsName name) : IsWord name := by
  obtain ⟨-, first, rest, chars, letter, others⟩ := named
  refine ⟨by rintro rfl; simp at chars, ?_, ?_⟩
  · simpa [chars] using ⟨.inl letter, others⟩
  · simpa [chars] using not_digit_of_isLetter letter

theorem isLetter_toUpper {c : Char} (letter : IsLetter c) : IsLetter c.toUpper := by
  unfold Char.toUpper
  split
  case isTrue lower =>
    have bounds : 97 ≤ c.val.toNat ∧ c.val.toNat ≤ 122 := by
      simpa [UInt32.le_iff_toNat_le] using lower
    have shifted : (c.val + ('A'.val - 'a'.val)).toNat = c.val.toNat - 32 := by
      rw [UInt32.toNat_add]
      have gap : ('A'.val - 'a'.val).toNat = 4294967264 := by decide
      omega
    left
    simp only [Char.le_def, UInt32.le_iff_toNat_le, shifted]
    exact ⟨by change 65 ≤ _; omega, by change _ ≤ 90; omega⟩
  case isFalse => exact letter

theorem toUpper_of_digit {c : Char} (digit : '0' ≤ c ∧ c ≤ '9') : c.toUpper = c := by
  unfold Char.toUpper
  refine dif_neg fun lower => ?_
  simp [Char.le_def, UInt32.le_iff_toNat_le] at digit lower
  omega

theorem continues_toUpper {c : Char} (continues : IsLetter c ∨ ('0' ≤ c ∧ c ≤ '9')) :
    IsLetter c.toUpper ∨ ('0' ≤ c.toUpper ∧ c.toUpper ≤ '9') := by
  rcases continues with letter | digit
  · exact .inl (isLetter_toUpper letter)
  · rw [toUpper_of_digit digit]
    exact .inr digit

theorem ofDigitChars_toString (n : Nat) : Nat.ofDigitChars 10 (toString n).toList 0 = n := by
  rw [Nat.toString_eq_repr, Nat.toList_repr, Nat.ofDigitChars_ten_toDigits]

theorem isContinuation_toString (n : Nat) : IsContinuation (toString n) := by
  intro c member
  rw [Nat.toString_eq_repr, Nat.toList_repr] at member
  exact .inr ((isDigit_iff c).mp (Nat.isDigit_of_mem_toDigits (by decide) (by decide) member))

namespace Header

theorem isWord_capitals {tag : String} (word : IsWord tag) : IsWord (capitals tag) := by
  obtain ⟨first, rest, chars⟩ :=
    List.exists_cons_of_ne_nil (l := tag.toList) (by simpa using word.1)
  have letter : IsLetter first := by
    have continues := word.continuation first (by simp [chars])
    exact continues.resolve_right (word.2.2 first (by simp [chars]))
  refine ⟨by simp [← String.toList_inj, capitals, chars], ?_, ?_⟩
  · intro c member
    obtain ⟨d, listed, rfl⟩ := List.mem_map.mp (by simpa [capitals] using member)
    exact continues_toUpper (word.continuation d listed)
  · simpa [capitals, chars] using not_digit_of_isLetter (isLetter_toUpper letter)

theorem guard_character (c : Char) :
    (IsLetter (if c.isAlphanum then c.toUpper else '_') ∧ ¬ ('0' ≤ c ∧ c ≤ '9')) ∨
      (if c.isAlphanum then c.toUpper else '_') = c ∧ '0' ≤ c ∧ c ≤ '9' := by
  by_cases digit : '0' ≤ c ∧ c ≤ '9'
  · right
    have alphanumeric : c.isAlphanum = true := by
      simp [Char.isAlphanum, (isDigit_iff c).mpr digit]
    rw [if_pos alphanumeric, toUpper_of_digit digit]
    exact ⟨rfl, digit⟩
  · left
    refine ⟨?_, digit⟩
    split
    case isTrue alphanumeric =>
      have continues : IsLetter c ∨ ('0' ≤ c ∧ c ≤ '9') :=
        (isAsciiContinue_iff c).mp (by simp [Text.Identifier.isAsciiContinue, alphanumeric])
      exact isLetter_toUpper (continues.resolve_right digit)
    case isFalse => decide

theorem isWord_guard_iff {stem ending : String} (word : IsWord ending) :
    IsWord (guardName stem ++ ending) ↔
      ∀ c, stem.toList.head? = some c → ¬ ('0' ≤ c ∧ c ≤ '9') := by
  have chars : (guardName stem).toList =
      stem.toList.map fun c => if c.isAlphanum then c.toUpper else '_' := by simp [guardName]
  constructor
  · intro whole c first digit
    have same := ((guard_character c).resolve_left fun letter => letter.2 digit).1
    refine whole.2.2 c ?_ digit
    rw [String.toList_append, chars, List.head?_append, List.head?_map, first,
      Option.map_some, same]
    rfl
  · intro plain
    refine FrontsNames.append_word ⟨fun c member => ?_, fun c first => ?_⟩ word
    · rw [chars] at member
      obtain ⟨d, -, rfl⟩ := List.mem_map.mp member
      rcases guard_character d with ⟨letter, -⟩ | ⟨same, digit⟩
      · exact .inl letter
      · rw [same]
        exact .inr digit
    · rw [chars, List.head?_map] at first
      obtain ⟨d, here, rfl⟩ := Option.map_eq_some_iff.mp first
      rcases guard_character d with ⟨letter, -⟩ | ⟨-, digit⟩
      · exact not_digit_of_isLetter letter
      · exact absurd digit (plain d here)

theorem isContinuation_mangleArgs {args : List Ty}
    (all : ∀ t ∈ args, IsContinuation (mangle t)) : IsContinuation (mangleArgs args) := by
  induction args with
  | nil => decide
  | cons t ts ih =>
    rw [mangleArgs, isContinuation_append, isContinuation_append]
    exact ⟨⟨by decide, all t List.mem_cons_self⟩,
      ih fun u member => all u (List.mem_cons_of_mem _ member)⟩

theorem isContinuation_mangleResult {returns : Option Ty}
    (all : ∀ t ∈ returns.toList, IsContinuation (mangle t)) :
    IsContinuation (mangleResult returns) := by
  cases returns with
  | none => decide
  | some t => exact all t List.mem_cons_self

theorem isContinuation_mangle {t : Ty} (names : ∀ name ∈ t.names, IsContinuation name) :
    IsContinuation (mangle t) := by
  induction t using Ty.size_induction with
  | step t ih =>
    have inside : ∀ u ∈ t.children, IsContinuation (mangle u) := fun u child =>
      ih u (Ty.size_lt_of_mem_children child) fun name used =>
        names name (Ty.mem_names_of_child child used)
    cases t with
    | primitive p => cases p <;> decide
    | string m => cases m <;> decide
    | named name => exact names name (Ty.mem_names_iff.mpr .refl)
    | pointer m pointee =>
      have target := inside pointee List.mem_cons_self
      cases m <;> simp (disch := decide) [mangle, target] <;> decide
    | slice m element =>
      have target := inside element List.mem_cons_self
      cases m <;> simp [mangle, target] <;> decide
    | array element len =>
      have target := inside element List.mem_cons_self
      simp only [mangle, isContinuation_append]
      exact ⟨⟨⟨by decide, target⟩, by decide⟩, isContinuation_toString _⟩
    | function args returns | closure args returns =>
      have arguments := isContinuation_mangleArgs fun u member =>
        inside u (List.mem_append_left returns.toList member)
      have result := isContinuation_mangleResult fun u member =>
        inside u (List.mem_append_right args member)
      simp only [mangle, isContinuation_append]
      exact ⟨⟨⟨by decide, result⟩, by decide⟩, arguments⟩
    | owned inner =>
      cases reference : inner.isReference with
      | false =>
        rw [mangle_owned reference]
        exact inside inner List.mem_cons_self
      | true =>
        have below : ∀ u ∈ inner.children, IsContinuation (mangle u) := fun u child =>
          ih u (Ty.size_lt_of_owned child) fun name used =>
            names name (Ty.mem_names_of_child List.mem_cons_self
              (Ty.mem_names_of_child child used))
        cases inner with
        | pointer m pointee =>
          simp only [mangle, isContinuation_append]
          exact ⟨by decide, below pointee List.mem_cons_self⟩
        | slice m element =>
          simp only [mangle, isContinuation_append]
          exact ⟨by decide, below element List.mem_cons_self⟩
        | _ => simp [Ty.isReference] at reference

/-! ### Keywords -/

inductive Edition where
  | c99
  | c11
  | c23
  deriving DecidableEq

def keywords99 : List String :=
  ["auto", "break", "case", "char", "const", "continue", "default", "do", "double", "else", "enum",
    "extern", "float", "for", "goto", "if", "inline", "int", "long", "register",
    "restrict", "return", "short", "signed", "sizeof", "static", "struct", "switch", "typedef",
    "union", "unsigned", "void", "volatile", "while", "_Bool", "_Complex", "_Imaginary"]

def keywords11 : List String :=
  ["_Alignas", "_Alignof", "_Atomic", "_Generic", "_Noreturn", "_Static_assert", "_Thread_local"]

def keywords23 : List String :=
  ["alignas", "alignof", "bool", "constexpr", "false", "nullptr", "static_assert", "thread_local",
    "true", "typeof", "typeof_unqual", "_BitInt", "_Decimal128", "_Decimal32", "_Decimal64"]

/-- The keywords of an edition: those of the one before it and its own. -/
def Edition.keywords : Edition → List String
  | .c99 => keywords99
  | .c11 => keywords99 ++ keywords11
  | .c23 => keywords99 ++ keywords11 ++ keywords23

/-- A word that an edition of C leaves to programs. -/
structure Usable (edition : Edition) (name : String) : Prop where
  word : IsWord name
  free : name ∉ edition.keywords

theorem keywords_subset (edition : Edition) : edition.keywords ⊆ Edition.c23.keywords := by
  cases edition with
  | c99 => exact fun _ listed => List.mem_append_left _ (List.mem_append_left _ listed)
  | c11 => exact fun _ listed => List.mem_append_left _ listed
  | c23 => exact List.Subset.refl _

def marks : List String :=
  ["_slice_", "_owned_", "_fn_", "_closure_", "_export_", "_ABI", "_SHARED", "_EXPORTS", "_H"]

theorem not_keyword_of_mark {mark : String} (listed : mark ∈ marks) (before after : String)
    (edition : Edition) : before ++ mark ++ after ∉ edition.keywords := by
  have apart : ∀ m ∈ marks, ∀ k ∈ Edition.c23.keywords, ¬ m.toList <:+: k.toList := by
    decide +kernel
  intro keyword
  refine apart mark listed _ (keywords_subset edition keyword) ?_
  rw [String.toList_append, String.toList_append]
  exact ⟨before.toList, after.toList, rfl⟩

theorem usable_of_mark {edition : Edition} {front mark : String} (listed : mark ∈ marks)
    (word : IsWord (front ++ mark)) : Usable edition (front ++ mark) := by
  refine ⟨word, ?_⟩
  have free := not_keyword_of_mark listed front "" edition
  rwa [String.append_empty] at free

end Header

end Bindery
