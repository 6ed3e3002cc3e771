import Bindery.Proofs.Header.Grouping
import Bindery.Proofs.Header.Identifiers

set_option autoImplicit false
set_option relaxedAutoImplicit false

/-!
Declarations read by the rules of C. A declarator is read from its name outwards: arrays and
parameter lists behind a name bind tighter than the stars before it, and parentheses group. Putting
a star before a declarator or a suffix behind it, in parentheses where they are needed, is read as
one level more, so the spelling of a type around a declarator is read as that type.
-/

namespace Bindery.Header.Reading

/-! ### Declarators -/

/-- A declarator, the outermost part of the text first. -/
inductive Declarator where
  | name (text : String)
  | pointer (isConst : Bool) (inner : Declarator)
  | array (inner : Declarator) (len : UInt64)
  | function (inner : Declarator) (params : List CType)

namespace Declarator

def declared : Declarator → String
  | .name text => text
  | .pointer _ inner => inner.declared
  | .array inner _ => inner.declared
  | .function inner _ => inner.declared

def type : Declarator → CType → CType
  | .name _, t => t
  | .pointer isConst inner, t => inner.type (.pointer isConst t)
  | .array inner len, t => inner.type (.array t len)
  | .function inner params, t => inner.type (.function params t)

def declares (d : Declarator) (t : CType) : String × CType := (d.declared, d.type t)

end Declarator

def length? (digits : String) : Option UInt64 :=
  let n := Nat.ofDigitChars 10 digits.toList 0
  if n < UInt64.size ∧ digits.toList.all Char.isDigit = true then some (UInt64.ofNat n) else none

def baseOf (word : String) : Base :=
  match Primitive.all.find? fun p => primitiveName p == word with
  | some p => .primitive p
  | none => if word = "char" then .char else if word = "void" then .void else .alias word

/-- Whether parentheses hold a declarator; parameters do not begin with a star. -/
def isNested : List (List Tree) → Bool
  | [.star :: _] => true
  | _ => false

def isVoid : List (List Tree) → Bool
  | [[.word "void"]] => true
  | _ => false

mutual

/-- Reads a declarator whose core, a name or a declarator in parentheses, may have been read. -/
def declarator (core : Option Declarator) : List Tree → Option Declarator
  | [] => some (core.getD (.name ""))
  | .star :: rest =>
    match core, rest with
    | some _, _ => none
    | none, .word "const" :: rest => (declarator none rest).map (.pointer true)
    | none, rest => (declarator none rest).map (.pointer false)
  | .word text :: rest =>
    match core with
    | some _ => none
    | none => if text = "const" then none else declarator (some (.name text)) rest
  | .number _ :: _ => none
  | .stray _ :: _ => none
  | .group true pieces :: rest =>
    match pieces with
    | [[.number digits]] =>
      (length? digits).bind fun len => declarator (some (.array (core.getD (.name "")) len)) rest
    | _ => none
  | .group false pieces :: rest =>
    if core.isNone && isNested pieces then
      match pieces with
      | [piece] => (declarator none piece).bind fun d => declarator (some d) rest
      | _ => none
    else if isVoid pieces then declarator (some (.function (core.getD (.name "")) [])) rest
    else
      (parameterTypes pieces).bind fun params =>
        declarator (some (.function (core.getD (.name "")) params)) rest

def parameterTypes : List (List Tree) → Option (List CType)
  | [] => some []
  | piece :: rest =>
    (declaration false piece).bind fun p => (parameterTypes rest).map (p.2 :: ·)

def declaration (isConst : Bool) : List Tree → Option (String × CType)
  | .word "const" :: rest => declaration true rest
  | .word "struct" :: .word tag :: rest =>
    (declarator none rest).map fun d => d.declares (.base isConst (.struct tag))
  | .word name :: rest =>
    (declarator none rest).map fun d => d.declares (.base isConst (baseOf name))
  | _ => none

end

def read (text : String) : Option (String × CType) :=
  match nest [] [] [] (lex text) with
  | some [piece] => declaration false piece
  | _ => none

/-! ### Suffixes and stars -/

theorem length?_toString (len : UInt64) : length? (toString len.toNat) = some len := by
  have digits : (toString len.toNat).toList.all Char.isDigit = true := by
    rw [Nat.toString_eq_repr, Nat.toList_repr, List.all_eq_true]
    exact fun c member => Nat.isDigit_of_mem_toDigits (by decide) (by decide) member
  rw [length?, ofDigitChars_toString, if_pos ⟨len.toNat_lt, digits⟩, UInt64.ofNat_toNat]

def opensSuffix : List Tree → Bool
  | [] => true
  | .group true _ :: _ => true
  | .group false pieces :: _ => !isNested pieces
  | _ => false

theorem declarator_of_opensSuffix {rest : List Tree} (opens : opensSuffix rest = true) :
    declarator none rest = declarator (some (.name "")) rest := by
  unfold opensSuffix at opens
  split at opens
  · simp [declarator]
  · rw [declarator.eq_def, declarator.eq_def (some _)]
    rfl
  · rename_i pieces rest
    have parameters : isNested pieces = false := by simpa using opens
    rw [declarator.eq_def, declarator.eq_def (some _)]
    simp [parameters]
  · simp at opens

theorem declarator_star {rest : List Tree} (plain : rest.head? ≠ some (.word "const")) :
    declarator none (.star :: rest) = (declarator none rest).map (.pointer false) := by
  rw [declarator]
  rintro others rfl
  exact plain rfl

theorem declarator_const (rest : List Tree) :
    declarator none (.star :: .word "const" :: rest) =
      (declarator none rest).map (.pointer true) := by
  rw [declarator]

theorem declarator_square (d : Declarator) (len : UInt64) (rest : List Tree) :
    declarator (some d) (.group true [[.number (toString len.toNat)]] :: rest) =
      declarator (some (.array d len)) rest := by
  rw [declarator, length?_toString, Option.bind_some, Option.getD_some]

theorem declarator_nested {inner : List Tree} {d : Declarator}
    (reads : declarator none (.star :: inner) = some d) (rest : List Tree) :
    declarator none (.group false [.star :: inner] :: rest) = declarator (some d) rest := by
  have nested : isNested [.star :: inner] = true := rfl
  rw [declarator, reads]
  simp [nested]

/-- The pieces between parentheses are parameters of some types. -/
def Lists (pieces : List (List Tree)) (types : List CType) : Prop :=
  isNested pieces = false ∧
    if isVoid pieces then types = [] else parameterTypes pieces = some types

theorem declarator_round {pieces : List (List Tree)} {types : List CType}
    (lists : Lists pieces types) (d : Declarator) (rest : List Tree) :
    declarator (some d) (.group false pieces :: rest) =
      declarator (some (.function d types)) rest := by
  obtain ⟨-, read⟩ := lists
  rw [declarator.eq_def]
  split at read
  case isTrue void => simp [void, read]
  case isFalse listed => simp [listed, read]

/-! ### Texts that read as declarators -/

/-- A text that reads as a declarator to which a suffix can be added as it stands. -/
structure Tight (text : String) (d : Declarator) (trees : List Tree) : Prop where
  groups : Groups text trees
  unstarred : text.toList.head? ≠ some '*'
  plain : trees.head? ≠ some (.word "const")
  reads : ∀ rest, opensSuffix rest = true → declarator none (trees ++ rest) =
    declarator (some d) rest

/-- A text that reads as a declarator and needs parentheses before a suffix. -/
structure Loose (text : String) (d : Declarator) (inner : List Tree) : Prop where
  groups : Groups text (.star :: inner)
  starred : text.toList.head? = some '*'
  reads : declarator none (.star :: inner) = some d

theorem lex_pointerTo (text : String) : lex (pointerTo false text) = .star :: lex text := by
  have apart : Apart "*" text := apart_of_last (c := '*') (by simp) (by decide)
  rw [pointerTo, if_neg Bool.false_ne_true, lex_append apart]
  rfl

theorem lex_pointerTo_const (text : String) :
    lex (pointerTo true text) = .star :: .word "const" :: lex text := by
  have apart : Apart "*const " text := apart_of_last (c := ' ') (by simp) (by decide)
  have short : lex "*const" = [.star, .word "const"] := by decide
  have long : lex "*const " = [.star, .word "const"] := by decide
  rw [pointerTo, if_pos rfl]
  split
  case isTrue empty =>
    obtain rfl : text = "" := by simpa using empty
    exact short
  case isFalse =>
    rw [lex_append apart, long]
    rfl

def suffixed (ending text : String) : String :=
  if text.toList.head? = some '*' then "(" ++ text ++ ")" ++ ending else text ++ ending

theorem suffixed_of_star {ending text : String} {rest : List Char}
    (star : text.toList = '*' :: rest) :
    suffixed ending text = "(" ++ text ++ ")" ++ ending :=
  if_pos (by simp [star])

theorem suffixed_of_other {ending text : String} (other : ∀ rest, text.toList ≠ '*' :: rest) :
    suffixed ending text = text ++ ending := by
  refine if_neg fun star => ?_
  obtain ⟨rest, chars⟩ := List.head?_eq_some_iff.mp star
  exact other rest chars

theorem arrayOf_eq (len : UInt64) (text : String) :
    arrayOf len text = suffixed ("[" ++ toString len.toNat ++ "]") text := by
  unfold arrayOf
  split
  case h_1 rest star => simp [suffixed_of_star star, ← String.toList_inj]
  case h_2 chars other => simp [suffixed_of_other other, ← String.toList_inj]

theorem functionOf_eq (params text : String) :
    functionOf params text = suffixed ("(" ++ params ++ ")") text := by
  unfold functionOf
  split
  case h_1 rest star => simp [suffixed_of_star star, ← String.toList_inj]
  case h_2 chars other => simp [suffixed_of_other other, ← String.toList_inj]

inductive Spells (text : String) (d : Declarator) : Prop
  | tight {trees : List Tree} (tight : Tight text d trees)
  | loose {inner : List Tree} (loose : Loose text d inner)

namespace Spells

variable {text : String} {d : Declarator}

theorem trees (spells : Spells text d) :
    ∃ trees, Groups text trees ∧ trees.head? ≠ some (.word "const") ∧
      declarator none trees = some d := by
  cases spells with
  | @tight trees tight =>
    refine ⟨trees, tight.groups, tight.plain, ?_⟩
    have alone := tight.reads [] rfl
    rwa [List.append_nil, declarator] at alone
  | @loose inner loose => exact ⟨.star :: inner, loose.groups, by simp, loose.reads⟩

theorem unnamed : Spells "" (.name "") :=
  .tight ⟨.empty, by simp, by simp, fun _ opens => declarator_of_opensSuffix opens⟩

theorem identifier {name : String} (word : IsWord name) (free : name ≠ "const") :
    Spells name (.name name) := by
  refine .tight ⟨.word word, word.unstarred, by simpa using free, fun rest _ => ?_⟩
  · rw [List.singleton_append, declarator]
    exact if_neg free

theorem pointer (isConst : Bool) (spells : Spells text d) :
    Spells (pointerTo isConst text) (.pointer isConst d) := by
  obtain ⟨trees, groups, plain, reads⟩ := spells.trees
  cases isConst with
  | false =>
    refine @Spells.loose _ _ trees ⟨fun outer pieces piece rest => ?_, by simp [pointerTo], ?_⟩
    · rw [lex_pointerTo, List.cons_append, nest, groups, List.append_assoc]
      rfl
    · rw [declarator_star plain, reads, Option.map_some]
  | true =>
    refine @Spells.loose _ _ (.word "const" :: trees) ⟨fun outer pieces piece rest => ?_, ?_, ?_⟩
    · rw [lex_pointerTo_const, List.cons_append, List.cons_append, nest, nest, groups]
      simp
    · rw [pointerTo, if_pos rfl]
      split <;> simp
    · rw [declarator_const, reads, Option.map_some]

/-- A suffix binds to a declarator before the stars in front of it. -/
theorem suffix {ending : String} {pieces : List (List Tree)} {square : Bool} {c : Char}
    {d' : Declarator} (groups : Groups ending [.group square pieces])
    (first : ending.toList.head? = some c) (mark : Text.Identifier.isAsciiContinue c = false)
    (noStar : c ≠ '*') (opens : opensSuffix [.group square pieces] = true)
    (binds : ∀ rest, declarator (some d) (.group square pieces :: rest) = declarator (some d') rest)
    (spells : Spells text d) : Spells (suffixed ending text) d' := by
  have opensAll (rest : List Tree) : opensSuffix (.group square pieces :: rest) = true := by
    cases square <;> exact opens
  cases spells with
  | @tight trees tight =>
    rw [suffixed, if_neg tight.unstarred]
    refine @Spells.tight _ _ (trees ++ [.group square pieces]) ⟨?_, ?_, ?_, fun rest _ => ?_⟩
    · exact tight.groups.append (apart_of_first first mark) groups
    · rw [String.toList_append, List.head?_append, first]
      cases head : text.toList.head? with
      | none => simpa using noStar
      | some x => simpa [head] using tight.unstarred
    · rw [List.head?_append]
      cases head : trees.head? with
      | none => simp
      | some tree => simpa [head] using tight.plain
    · rw [List.append_assoc, List.singleton_append, tight.reads _ (opensAll rest), binds]
  | @loose inner loose =>
    rw [suffixed, if_pos loose.starred]
    refine @Spells.tight _ _ [.group false [.star :: inner], .group square pieces]
      ⟨?_, by simp, by simp, fun rest _ => ?_⟩
    · exact (loose.groups.enclosed false).append (apart_of_first first mark) groups
    · rw [List.cons_append, List.cons_append, List.nil_append, declarator_nested loose.reads, binds]

theorem array (len : UInt64) (spells : Spells text d) :
    Spells (arrayOf len text) (.array d len) := by
  rw [arrayOf_eq]
  exact spells.suffix (c := '[') ((Groups.number len.toNat).enclosed true) (by simp)
    (by decide) (by decide) rfl
    (declarator_square d len)

theorem function {texts : List String} {pieces : List (List Tree)} {types : List CType}
    (groups : Groups ("(" ++ parameters texts ++ ")") [.group false pieces])
    (lists : Lists pieces types) (spells : Spells text d) :
    Spells (functionOf (parameters texts) text) (.function d types) := by
  rw [functionOf_eq]
  exact spells.suffix (c := '(') groups (by simp) (by decide) (by decide)
    (by simp [opensSuffix, lists.1]) (declarator_round lists d)

end Spells

/-! ### Declarations -/

/-- A text declares a name of a type, also as a parameter. -/
def Declares (text name : String) (type : CType) : Prop :=
  ∃ first rest, Groups text (.word first :: rest) ∧
    declaration false (.word first :: rest) = some (name, type)

theorem Declares.read_eq {text name : String} {type : CType} (declares : Declares text name type) :
    read text = some (name, type) := by
  obtain ⟨first, rest, groups, reads⟩ := declares
  rw [read, groups.nest_eq]
  exact reads

def baseTrees : Base → List Tree
  | .struct name => [.word "struct", .word name]
  | b => [.word b.text]

/-- A base that is spelled with words which nothing else is spelled with. -/
def Legible : Base → Prop
  | .struct name => IsWord name
  | .alias name => IsWord name ∧ name ≠ "const" ∧ name ≠ "struct" ∧ baseOf name = .alias name
  | _ => True

theorem groups_base {b : Base} (legible : Legible b) : Groups b.text (baseTrees b) := by
  cases b with
  | primitive p =>
    refine .word (isWord_of_isPrefix ?_ ?_)
    · cases p <;> decide
    · cases p <;> decide
  | char => exact .word (isWord_of_isPrefix (by decide) (by decide))
  | void => exact .word (isWord_of_isPrefix (by decide) (by decide))
  | struct name =>
    have keyword : Groups "struct " [.word "struct"] := .of_lex (by decide)
    exact keyword.append (apart_of_last (c := ' ') (by simp) (by decide)) (.word legible)
  | «alias» name => exact .word legible.1

theorem declaration_word {isConst : Bool} {word : String} {rest : List Tree}
    (noConst : word ≠ "const")
    (noStruct : word ≠ "struct") :
    declaration isConst (.word word :: rest) =
      (declarator none rest).map fun d => d.declares (.base isConst (baseOf word)) := by
  rw [declaration.eq_def]
  split <;> simp_all

theorem declaration_base {b : Base} (legible : Legible b) (isConst : Bool) (rest : List Tree) :
    declaration isConst (baseTrees b ++ rest) =
      (declarator none rest).map fun d => d.declares (.base isConst b) := by
  cases b with
  | primitive p =>
    have own : baseOf (primitiveName p) = .primitive p := by cases p <;> decide
    have noConst : primitiveName p ≠ "const" := by cases p <;> decide
    have noStruct : primitiveName p ≠ "struct" := by cases p <;> decide
    simp [baseTrees, Base.text, declaration_word noConst noStruct, own]
  | char => exact (declaration_word (by decide) (by decide)).trans rfl
  | void => exact (declaration_word (by decide) (by decide)).trans rfl
  | struct name => simp [baseTrees, declaration]
  | «alias» name =>
    obtain ⟨-, noConst, noStruct, own⟩ := legible
    simp [baseTrees, Base.text, declaration_word noConst noStruct, own]

theorem lex_joined (base text : String) : lex (joined base text) = lex base ++ lex text := by
  have blank : lex " " = [] := by decide
  have before : Apart base " " := apart_of_first (c := ' ') (by simp) (by decide)
  unfold joined
  split
  case isTrue empty =>
    obtain rfl : text = "" := by simpa using empty
    exact (List.append_nil _).symm
  case isFalse =>
    rw [lex_append (apart_of_last (c := ' ') (by simp) (by decide)), lex_append before, blank,
      List.append_nil]

theorem groups_qualified {base : String} {trees : List Tree} (groups : Groups base trees) :
    Groups (qualified true base) (.word "const" :: trees) := by
  have keyword : Groups "const " [.word "const"] := .of_lex (by decide)
  exact keyword.append (apart_of_last (c := ' ') (by simp) (by decide)) groups

theorem declares_base {b : Base} (legible : Legible b) (isConst : Bool) {text : String}
    {d : Declarator} (spells : Spells text d) :
    Declares (joined (qualified isConst b.text) text) d.declared (d.type (.base isConst b)) := by
  obtain ⟨trees, groups, -, reads⟩ := spells.trees
  have joins {base : String} {ts : List Tree} (before : Groups base ts) :
      Groups (joined base text) (ts ++ trees) := by
    intro outer pieces piece rest
    rw [lex_joined, List.append_assoc, before, groups, List.append_assoc]
  have base (isConst : Bool) :
      declaration isConst (baseTrees b ++ trees) = some (d.declares (.base isConst b)) := by
    rw [declaration_base legible, reads, Option.map_some]
  cases isConst with
  | true =>
    refine ⟨"const", baseTrees b ++ trees, joins (groups_qualified (groups_base legible)), ?_⟩
    rw [declaration, base]
    rfl
  | false =>
    have whole := joins (groups_base legible)
    have read := base false
    obtain ⟨first, rest, begins⟩ : ∃ first rest, baseTrees b = .word first :: rest := by
      cases b <;> exact ⟨_, _, rfl⟩
    rw [begins] at whole read
    exact ⟨first, rest ++ trees, whole, read⟩

/-- A type without functions over legible bases. -/
inductive Plain : CType → Prop
  | base (isConst : Bool) {leaf : Base} (legible : Legible leaf) : Plain (.base isConst leaf)
  | pointer (isConst : Bool) {target : CType} (plain : Plain target) :
    Plain (.pointer isConst target)
  | array {element : CType} (len : UInt64) (plain : Plain element) : Plain (.array element len)

/-- Spelling a type around a declarator declares its name with the type that the declarator makes of
it. -/
theorem declares_declare {type : CType} (plain : Plain type) {text : String} {d : Declarator}
    (spells : Spells text d) : Declares (type.declare text) d.declared (d.type type) := by
  -- The declarator grows from the inside while the type is taken off from the outside.
  induction plain generalizing text d with
  | base isConst legible => exact declares_base legible isConst spells
  | pointer isConst _ ih => exact ih (spells.pointer isConst)
  | array len _ ih => exact ih (spells.array len)

/-! ### Parameter lists -/

def DeclaresAll (texts : List String) (types : List CType) : Prop :=
  List.Forall₂ (fun text type => type ≠ .base false .void ∧ ∃ name, Declares text name type) texts
    types

theorem groups_of_declaresAll {texts : List String} {types : List CType}
    (all : DeclaresAll texts types) :
    ∃ pieces, GroupsAll texts pieces ∧ parameterTypes pieces = some types ∧
      ∀ piece ∈ pieces, piece ≠ [.word "void"] ∧ ∃ first rest, piece = .word first :: rest := by
  induction all with
  | nil => exact ⟨[], .nil, by rw [parameterTypes], by simp⟩
  | @cons text type texts types head _ ih =>
    obtain ⟨pieces, groups, reads, proper⟩ := ih
    obtain ⟨noVoid, name, first, rest, grouped, read⟩ := head
    refine ⟨(.word first :: rest) :: pieces, .cons grouped groups, ?_, ?_⟩
    · rw [parameterTypes, read, reads]
      rfl
    · intro piece member
      rcases List.mem_cons.mp member with rfl | later
      · refine ⟨fun void => noVoid ?_, first, rest, rfl⟩
        have alone : declaration false [.word "void"] = some ("", .base false .void) := by
          rw [declaration_word (by decide) (by decide), declarator]
          rfl
        rw [void, alone] at read
        exact (congrArg Prod.snd (Option.some.inj read)).symm
      · exact proper piece later

theorem lists_parameters {texts : List String} {types : List CType}
    (all : DeclaresAll texts types) :
    ∃ pieces, Groups ("(" ++ parameters texts ++ ")") [.group false pieces] ∧
      Lists pieces types := by
  obtain ⟨pieces, groups, reads, proper⟩ := groups_of_declaresAll all
  cases all with
  | nil =>
    have void : Groups "void" [.word "void"] := .of_lex (by decide)
    exact ⟨[[.word "void"]], void.enclosed false, rfl, rfl⟩
  | @cons text type texts types head others =>
    have several : parameters (text :: texts) = ", ".intercalate (text :: texts) := by
      simp [parameters]
    obtain ⟨piece, tail, rfl⟩ : ∃ piece tail, pieces = piece :: tail := by
      cases groups with
      | cons => exact ⟨_, _, rfl⟩
    obtain ⟨noVoid, first, rest, rfl⟩ := proper _ List.mem_cons_self
    refine ⟨_, several ▸ Groups.bracketed false groups (by simp), ?_, ?_⟩
    · rw [isNested]
      simp
    · have listed : isVoid ((.word first :: rest) :: tail) = false := by
        unfold isVoid
        split <;> simp_all
      rw [listed]
      exact reads

end Bindery.Header.Reading
