import Bindery.Proofs.Header.Words
import Bindery.Proofs.Header.Parts

set_option autoImplicit false
set_option relaxedAutoImplicit false

/-!
Reading types back from the loader module. The spelling of an expression begins with its longest
word, and what follows is nothing, arguments between parentheses, or an array. So an expression can
be told from its text, and the type from the expression, except for what may be written. Main
statement: two types in an accepted description have the same text exactly if they differ in
mutability only.
-/

namespace Bindery

namespace Ty

mutual

/-- The type with every pointer, string and slice made read-only. -/
def frozen : Ty → Ty
  | .primitive p => .primitive p
  | .pointer _ pointee => .pointer .const pointee.frozen
  | .string _ => .string .const
  | .slice _ element => .slice .const element.frozen
  | .owned inner => .owned inner.frozen
  | .function args returns => .function (frozenAll args) (frozenOption returns)
  | .closure args returns => .closure (frozenAll args) (frozenOption returns)
  | .array element len => .array element.frozen len
  | .named name => .named name

def frozenAll : List Ty → List Ty
  | [] => []
  | t :: ts => t.frozen :: frozenAll ts

def frozenOption : Option Ty → Option Ty
  | none => none
  | some t => some t.frozen

end

theorem frozenAll_eq_map (ts : List Ty) : frozenAll ts = ts.map frozen := by
  induction ts with
  | nil => rfl
  | cons t ts ih => rw [frozenAll, ih, List.map_cons]

end Ty

namespace Loader

/-! ### Texts of expressions -/

def inWord (c : Char) : Bool := Text.Identifier.isAsciiContinue c || c == '.'

def Parted (rest : List Char) : Prop := ∀ c, rest.head? = some c → inWord c = false

/-- The text does not go on with an expression: neither with a word nor with arguments. -/
def Ends (rest : List Char) : Prop := Parted rest ∧ rest.head? ≠ some '('

namespace Expr

inductive Single : Expr → Prop where
  | name {text : String} (named : IsName text) (other : text ≠ "None") : Single (.name text)
  | absent : Single .absent
  | member {text : String} (continuation : IsContinuation text) : Single (.member text)

inductive Legible : Expr → Prop where
  | single {e : Expr} (single : e.Single) : Legible e
  | call {callee : Expr} {first : Expr} {args : List Expr} (single : callee.Single)
    (head : Legible first) (others : ∀ e ∈ args, Legible e) : Legible (.call callee (first :: args))
  | array {element : Expr} {len : Nat} (inner : Legible element) : Legible (.array element len)

end Expr

theorem word_unique {u v rest more : List Char} (first : ∀ c ∈ u, inWord c = true)
    (second : ∀ c ∈ v, inWord c = true) (parted : Parted rest) (partedToo : Parted more)
    (same : u ++ rest = v ++ more) : u = v ∧ rest = more := by
  have longest {w tail : List Char} (all : ∀ c ∈ w, inWord c = true) (parted : Parted tail) :
      (w ++ tail).takeWhile inWord = w := by
    have none : tail.takeWhile inWord = [] := by
      cases tail with
      | nil => rfl
      | cons c tail => simp [parted c rfl]
    rw [List.takeWhile_append_of_pos all, none, List.append_nil]
  have words := congrArg (List.takeWhile inWord) same
  rw [longest first parted, longest second partedToo] at words
  subst words
  exact ⟨rfl, List.append_cancel_left same⟩

theorem inWord_of_isContinuation {text : String} (continuation : IsContinuation text) :
    ∀ c ∈ text.toList, inWord c = true := by
  intro c member
  have continues := (isAsciiContinue_iff c).mpr (continuation c member)
  simp [inWord, continues]

theorem not_dot_of_isContinuation {text : String} (continuation : IsContinuation text) :
    '.' ∉ text.toList := by
  intro member
  have continues := (isAsciiContinue_iff '.').mpr (continuation '.' member)
  exact absurd continues (by decide)

namespace Expr

variable {a b : Expr}

theorem Single.inWord (single : a.Single) : ∀ c ∈ a.spell.toList, inWord c = true := by
  cases single with
  | name named _ => exact inWord_of_isContinuation (isWord_of_isName named).continuation
  | absent => exact List.all_eq_true.mp (by decide : "None".toList.all Loader.inWord = true)
  | member continuation =>
    have front := List.all_eq_true.mp (by decide : "ct.".toList.all Loader.inWord = true)
    intro c listed
    rw [spell, String.toList_append, List.mem_append] at listed
    exact listed.elim (front c) (inWord_of_isContinuation continuation c)

theorem Single.spell_ne (single : a.Single) : a.spell.toList ≠ [] := by
  cases single with
  | name named _ => simpa [spell] using (isWord_of_isName named).1
  | absent => decide
  | member continuation => simp [spell]

theorem Single.spell_inj (single : a.Single) (other : b.Single) (same : a.spell = b.spell) :
    a = b := by
  have dotted {text : String} (continuation : IsContinuation text) (name : String) :
      text ≠ (Expr.member name).spell := by
    rintro rfl
    exact not_dot_of_isContinuation continuation (by simp [spell])
  cases single with
  | name named notNone =>
    cases other with
    | name => exact congrArg Expr.name same
    | absent => exact absurd same notNone
    | member => exact absurd same (dotted (isWord_of_isName named).continuation _)
  | absent =>
    cases other with
    | name _ notNone => exact absurd same.symm notNone
    | absent => rfl
    | member => exact absurd same (dotted (by decide) _)
  | member =>
    cases other with
    | name named _ => exact absurd same.symm (dotted (isWord_of_isName named).continuation _)
    | absent => exact absurd same.symm (dotted (by decide) _)
    | member => exact congrArg Expr.member (String.append_right_inj _ |>.mp same)

def further (args : List Expr) : List Char := args.flatMap fun e => ',' :: ' ' :: e.spell.toList

theorem spell_call (callee first : Expr) (args : List Expr) :
    (call callee (first :: args)).spell.toList =
      callee.spell.toList ++ '(' :: (first.spell.toList ++ (further args ++ [')'])) := by
  have listed : (String.join ((spellAll args).map fun text => ", " ++ text)).toList =
      further args := by
    induction args with
    | nil => rfl
    | cons e args ih => simp [spellAll, further, ih]
  rw [spell, spellAll, intercalate_cons]
  simp [listed]

theorem spell_array (element : Expr) (len : Nat) :
    (array element len).spell.toList =
      '(' :: (element.spell.toList ++ ' ' :: '*' :: ' ' :: ((toString len).toList ++ [')'])) := by
  simp [spell]

theorem parted_of_mark {c : Char} (mark : Loader.inWord c = false) (rest : List Char) :
    Parted (c :: rest) := by
  intro d first
  obtain rfl : c = d := by simpa using first
  exact mark

theorem ends_of_mark {c : Char} (mark : Loader.inWord c = false ∧ c ≠ '(') (rest : List Char) :
    Ends (c :: rest) :=
  ⟨parted_of_mark mark.1 rest, by simpa using mark.2⟩

theorem ends_further (args : List Expr) (rest : List Char) :
    Ends (further args ++ ')' :: rest) := by
  cases args with
  | nil => exact ends_of_mark (by decide) _
  | cons e args => exact ends_of_mark (by decide) _

theorem Single.ne_open (single : a.Single) (rest more : List Char) :
    a.spell.toList ++ rest ≠ '(' :: more := by
  obtain ⟨c, word, chars⟩ := List.exists_cons_of_ne_nil single.spell_ne
  intro same
  obtain ⟨rfl, -⟩ : c = '(' ∧ word ++ rest = more := by simpa [chars] using same
  exact absurd (single.inWord '(' (by simp [chars])) (by decide)

theorem Single.unique (single : a.Single) (other : b.Single) {rest more : List Char}
    (parted : Parted rest) (partedToo : Parted more)
    (same : a.spell.toList ++ rest = b.spell.toList ++ more) : a = b ∧ rest = more := by
  obtain ⟨words, rests⟩ := word_unique single.inWord other.inWord parted partedToo same
  exact ⟨single.spell_inj other (String.toList_inj.mp words), rests⟩

/-- Whatever legible expression a text begins with, if it begins with this one, it is this one. -/
def Unique (a : Expr) : Prop :=
  ∀ {b : Expr} {rest more : List Char}, b.Legible → Ends rest → Ends more →
    a.spell.toList ++ rest = b.spell.toList ++ more → a = b ∧ rest = more

theorem further_unique {args others : List Expr} (unique : ∀ e ∈ args, Unique e)
    (legible : ∀ e ∈ others, Legible e) {rest more : List Char}
    (same : further args ++ ')' :: rest = further others ++ ')' :: more) :
    args = others ∧ rest = more := by
  induction args generalizing others with
  | nil =>
    cases others with
    | nil => exact ⟨rfl, by simpa [further] using same⟩
    | cons f others => simp [further] at same
  | cons e args ih =>
    cases others with
    | nil => simp [further] at same
    | cons f others =>
      have inner : e.spell.toList ++ (further args ++ ')' :: rest) =
          f.spell.toList ++ (further others ++ ')' :: more) := by
        simpa [further] using same
      obtain ⟨rfl, later⟩ := unique e List.mem_cons_self (legible f List.mem_cons_self)
        (ends_further args rest) (ends_further others more) inner
      obtain ⟨rfl, rests⟩ := ih (fun e member => unique e (List.mem_cons_of_mem _ member))
        (fun e member => legible e (List.mem_cons_of_mem _ member)) later
      exact ⟨rfl, rests⟩

theorem toString_inj {m n : Nat} (same : (toString m).toList = (toString n).toList) : m = n := by
  rw [← ofDigitChars_toString m, same, ofDigitChars_toString]

/-- Expressions are told from their texts. -/
theorem Legible.unique (legible : a.Legible) : Unique a := by
  induction legible with
  | single single =>
    intro b rest more other ends endsToo same
    cases other with
    | single another => exact single.unique another ends.1 endsToo.1 same
    | call another _ _ =>
      -- After the word the one text has an argument, the other one has none.
      rw [spell_call, List.append_assoc] at same
      obtain ⟨-, rfl⟩ := single.unique another ends.1 (parted_of_mark (by decide) _) same
      exact absurd rfl ends.2
    | array _ =>
      rw [spell_array] at same
      exact absurd same (single.ne_open _ _)
  | @call callee first args single _ _ head others =>
    intro b rest more other ends endsToo same
    cases other with
    | single another =>
      rw [spell_call, List.append_assoc] at same
      obtain ⟨-, rfl⟩ := single.unique another (parted_of_mark (by decide) _) endsToo.1 same
      exact absurd rfl endsToo.2
    | @call _ second others' another headToo othersToo =>
      rw [spell_call, spell_call, List.append_assoc, List.append_assoc] at same
      obtain ⟨rfl, inner⟩ := single.unique another (parted_of_mark (by decide) _)
        (parted_of_mark (by decide) _) same
      have arguments : first.spell.toList ++ (further args ++ ')' :: rest) =
          second.spell.toList ++ (further others' ++ ')' :: more) := by
        simpa using inner
      obtain ⟨rfl, later⟩ :=
        head headToo (ends_further args rest) (ends_further others' more) arguments
      obtain ⟨rfl, rests⟩ := further_unique others othersToo later
      exact ⟨rfl, rests⟩
    | array _ =>
      rw [spell_call, spell_array, List.append_assoc] at same
      exact absurd same (single.ne_open _ _)
  | @array element len _ inner =>
    intro b rest more other ends endsToo same
    cases other with
    | single another =>
      rw [spell_array] at same
      exact absurd same.symm (another.ne_open _ _)
    | call another _ _ =>
      rw [spell_array, spell_call, List.append_assoc] at same
      exact absurd same.symm (another.ne_open _ _)
    | @array element' len' innerToo =>
      have elements : element.spell.toList ++
          ' ' :: '*' :: ' ' :: ((toString len).toList ++ ')' :: rest) =
          element'.spell.toList ++
            ' ' :: '*' :: ' ' :: ((toString len').toList ++ ')' :: more) := by
        simpa [spell_array] using same
      obtain ⟨rfl, lengths⟩ :=
        inner innerToo (ends_of_mark (by decide) _) (ends_of_mark (by decide) _)
        elements
      have digits : (toString len).toList ++ ')' :: rest =
          (toString len').toList ++ ')' :: more := by
        simpa using lengths
      obtain ⟨numbers, rests⟩ :=
        word_unique (inWord_of_isContinuation (isContinuation_toString len))
        (inWord_of_isContinuation (isContinuation_toString len')) (parted_of_mark (by decide) _)
        (parted_of_mark (by decide) _) digits
      obtain rfl := toString_inj numbers
      exact ⟨rfl, by simpa using rests⟩

theorem Legible.spell_inj (legible : a.Legible) (other : b.Legible) (same : a.spell = b.spell) :
    a = b := by
  have nothing : Ends [] := ⟨by simp [Parted], by simp⟩
  exact (legible.unique other nothing nothing (by rw [same])).1

/-! ### Types of expressions -/

def memberType? (text : String) : Option Ty :=
  if text = "c_char_p" then some (.string .const)
  else (Primitive.all.find? fun p => primitiveMember p == text).map .primitive

/-- The type that a call makes of the types of its arguments, the first of which may be missing. -/
def callType? : Expr → List (Option Ty) → Option Ty
  | .member "POINTER", [some t] => some (.pointer .const t)
  | .name "Slice", [some t] => some (.slice .const t)
  | .name "OwnedPtr", [some t] => some (.owned (.pointer .const t))
  | .name "OwnedSlice", [some t] => some (.owned (.slice .const t))
  | .member "CFUNCTYPE", result :: args => (args.mapM id).map fun args => .function args result
  | .name "Closure", result :: args => (args.mapM id).map fun args => .closure args result
  | _, _ => none

mutual

/-- The type that an expression stands for, read-only as far as it refers to anything. -/
def type? : Expr → Option Ty
  | .name text => some (.named text)
  | .absent => none
  | .member text => memberType? text
  | .call callee args => callType? callee (types args)
  | .array element len => element.type?.map fun t => .array t (.ofNat len)
  | .spread _ => none

def types : List Expr → List (Option Ty)
  | [] => []
  | e :: es => e.type? :: types es

end

theorem memberType?_primitive (p : Primitive) :
    memberType? (primitiveMember p) = some (.primitive p) := by
  cases p <;> decide

end Expr

theorem type?_denoteResult {r : Option Ty}
    (read : ∀ t ∈ r.toList, (denote t).type? = some t.frozen) :
    (denoteResult r).type? = Ty.frozenOption r := by
  cases r with
  | none => rfl
  | some t => exact read t List.mem_cons_self

theorem mapM_types_denoteAll {ts : List Ty} (read : ∀ t ∈ ts, (denote t).type? = some t.frozen) :
    (Expr.types (denoteAll ts)).mapM id = some (Ty.frozenAll ts) := by
  induction ts with
  | nil => rfl
  | cons t ts ih =>
    have rest := ih fun u member => read u (List.mem_cons_of_mem _ member)
    rw [denoteAll, Expr.types, read t List.mem_cons_self, List.mapM_cons, rest]
    rfl

theorem type?_denote {t : Ty} (owns : t.OwnsReferences) : (denote t).type? = some t.frozen := by
  induction t using Ty.size_induction with
  | step t ih =>
    have inside : ∀ u ∈ t.children, (denote u).type? = some u.frozen := fun u child =>
      ih u (Ty.size_lt_of_mem_children child) (owns.child child)
    cases t with
    | primitive p => exact Expr.memberType?_primitive p
    | named name => rfl
    | string m => rfl
    | pointer m pointee =>
      simp [denote, pointerExpr, Expr.type?, Expr.types, Expr.callType?,
        inside pointee List.mem_cons_self, Ty.frozen]
    | slice m element =>
      simp [denote, Expr.type?, Expr.types, Expr.callType?,
        inside element List.mem_cons_self, Ty.frozen]
    | array element len =>
      simp [denote, Expr.type?, inside element List.mem_cons_self, Ty.frozen]
    | function args returns =>
      have arguments := mapM_types_denoteAll fun u member =>
        inside u (List.mem_append_left _ member)
      have result := type?_denoteResult fun u member => inside u (List.mem_append_right _ member)
      simp [denote, callbackExpr, Expr.type?, Expr.types, Expr.callType?, arguments,
        result, Ty.frozen]
    | closure args returns =>
      have arguments := mapM_types_denoteAll fun u member =>
        inside u (List.mem_append_left _ member)
      have result := type?_denoteResult fun u member => inside u (List.mem_append_right _ member)
      simp [denote, Expr.type?, Expr.types, Expr.callType?, arguments, result, Ty.frozen]
    | owned inner =>
      have reference := owns inner .refl
      cases inner with
      | pointer m pointee =>
        have target := ih pointee (Ty.size_lt_of_owned List.mem_cons_self)
          ((owns.child List.mem_cons_self).child List.mem_cons_self)
        simp [denote, Expr.type?, Expr.types, Expr.callType?, target, Ty.frozen]
      | slice m element =>
        have target := ih element (Ty.size_lt_of_owned List.mem_cons_self)
          ((owns.child List.mem_cons_self).child List.mem_cons_self)
        simp [denote, Expr.type?, Expr.types, Expr.callType?, target, Ty.frozen]
      | _ => simp [Ty.isReference] at reference

theorem denoteResult_frozen {r : Option Ty} (same : ∀ t ∈ r.toList, denote t.frozen = denote t) :
    denoteResult (Ty.frozenOption r) = denoteResult r := by
  cases r with
  | none => rfl
  | some t => exact same t List.mem_cons_self

theorem denoteAll_frozen {ts : List Ty} (same : ∀ t ∈ ts, denote t.frozen = denote t) :
    denoteAll (Ty.frozenAll ts) = denoteAll ts := by
  rw [Ty.frozenAll_eq_map, denoteAll_eq_map, denoteAll_eq_map, List.map_map]
  exact List.map_congr_left same

theorem denote_frozen (t : Ty) : denote t.frozen = denote t := by
  induction t using Ty.size_induction with
  | step t ih =>
    have inside : ∀ u ∈ t.children, denote u.frozen = denote u := fun u child =>
      ih u (Ty.size_lt_of_mem_children child)
    cases t with
    | primitive p => rfl
    | named name => rfl
    | string m => rfl
    | pointer m pointee => rw [Ty.frozen, denote, denote, inside pointee List.mem_cons_self]
    | slice m element => rw [Ty.frozen, denote, denote, inside element List.mem_cons_self]
    | array element len => rw [Ty.frozen, denote, denote, inside element List.mem_cons_self]
    | function args returns | closure args returns =>
      rw [Ty.frozen, denote, denote, denoteAll_frozen, denoteResult_frozen]
      · exact fun u member => inside u (List.mem_append_right _ member)
      · exact fun u member => inside u (List.mem_append_left _ member)
    | owned inner =>
      have content := inside inner List.mem_cons_self
      cases inner with
      | pointer m pointee =>
        have target := ih pointee (Ty.size_lt_of_owned List.mem_cons_self)
        simp only [Ty.frozen, denote, target]
      | slice m element =>
        have target := ih element (Ty.size_lt_of_owned List.mem_cons_self)
        simp only [Ty.frozen, denote, target]
      | primitive | string | named => rfl
      | _ => simpa only [Ty.frozen, denote] using content

theorem single_factory {name : String} (identifier : Text.Identifier.isIdentifier name = true)
    (other : name ≠ "None") : (Expr.name name).Single :=
  .name ((isIdentifier_iff name).mp identifier) other

theorem legible_call_one {callee arg : Expr} (single : callee.Single) (legible : arg.Legible) :
    (Expr.call callee [arg]).Legible :=
  .call single legible (by simp)

theorem legible_call_signature {callee : Expr} (single : callee.Single) {args : List Ty}
    {returns : Option Ty} (legible : ∀ t ∈ args ++ returns.toList, (denote t).Legible) :
    (Expr.call callee (denoteResult returns :: denoteAll args)).Legible := by
  refine .call single ?_ ?_
  · cases returns with
    | none => exact .single .absent
    | some t => exact legible t (by simp)
  · intro e member
    rw [denoteAll_eq_map] at member
    obtain ⟨t, listed, rfl⟩ := List.mem_map.mp member
    exact legible t (List.mem_append_left _ listed)

theorem legible_denote {t : Ty}
    (regular : ∀ name, (Ty.named name).Inside t → IsName name ∧ name ≠ "None") :
    (denote t).Legible := by
  induction t using Ty.size_induction with
  | step t ih =>
    have inside : ∀ u ∈ t.children, (denote u).Legible := fun u child =>
      ih u (Ty.size_lt_of_mem_children child) fun name within =>
        regular name (Ty.inside_of_child child within)
    cases t with
    | primitive p => exact .single (.member (by cases p <;> decide))
    | named name => exact .single (.name (regular name .refl).1 (regular name .refl).2)
    | string m => exact .single (.member (by decide))
    | pointer m pointee =>
      exact legible_call_one (.member (by decide)) (inside pointee List.mem_cons_self)
    | slice m element =>
      exact legible_call_one (single_factory (by decide) (by decide))
        (inside element List.mem_cons_self)
    | array element len => exact .array (inside element List.mem_cons_self)
    | function args returns => exact legible_call_signature (.member (by decide)) inside
    | closure args returns =>
      exact legible_call_signature (single_factory (by decide) (by decide)) inside
    | owned inner =>
      have content := inside inner List.mem_cons_self
      have below : ∀ u ∈ inner.children, (denote u).Legible := fun u child =>
        ih u (Ty.size_lt_of_owned child) fun name within =>
          regular name (Ty.inside_of_child List.mem_cons_self (Ty.inside_of_child child within))
      cases inner with
      | pointer m pointee =>
        exact legible_call_one (single_factory (by decide) (by decide))
          (below pointee List.mem_cons_self)
      | slice m element =>
        exact legible_call_one (single_factory (by decide) (by decide))
          (below element List.mem_cons_self)
      | _ => exact content

end Loader

section Generated

open Loader

theorem regular_of_loader {items out : Items} (accepted : items.arranged = .ok out)
    (checked : checkNames (classNames out) = .ok ()) {t : Ty} (occurs : items.Occurs t) :
    ∀ name, (Ty.named name).Inside t → IsName name ∧ name ≠ "None" := by
  obtain ⟨top, declared, inside⟩ := occurs
  intro name within
  have known := List.mem_append.mpr
    (Items.mem_names_of_arranged accepted declared (inside.trans within))
  have free := checkNames_ok_iff.mp checked name ((Items.mem_classNames_iff accepted).mpr known)
  refine ⟨Items.isName_of_declared accepted (Items.mem_declaredNames.mpr (.inl known)), ?_⟩
  rintro rfl
  exact free (by decide)

/-- Two types in a description for which the loader module is made have the same expression exactly
if they are the same but for mutability. -/
theorem expr_eq_iff_frozen {env : Environment} {options : Options} {items : Items}
    {cache : ManifestCache} {text : String}
    (made : (generateMain env options items .python cache).2.result = .ok text) {a b : Ty}
    (first : items.Occurs a) (second : items.Occurs b) :
    expr a = expr b ↔ a.frozen = b.frozen := by
  obtain ⟨-, out, valid, rendered⟩ := generateMain_ok_iff.mp made
  obtain ⟨checked, -⟩ := loaderText_ok_iff.mp rendered
  have accepted : items.arranged = .ok out := valid
  have owns {t : Ty} (occurs : items.Occurs t) : t.OwnsReferences := by
    obtain ⟨top, declared, inside⟩ := occurs
    exact fun inner within =>
      Items.ownsReferences_of_arranged accepted declared inner (inside.trans within)
  rw [← spell_denote a, ← spell_denote b]
  constructor
  · intro same
    have trees := (legible_denote (regular_of_loader accepted checked first)).spell_inj
      (legible_denote (regular_of_loader accepted checked second)) same
    have types := type?_denote (owns first)
    rw [trees, type?_denote (owns second)] at types
    exact (Option.some.inj types).symm
  · intro same
    rw [← denote_frozen a, same, denote_frozen]

def cells : Items where
  structs := [
    { name := "cell"
      fields := [
        { name := "rows", ty := .array (.array (.primitive .u8) 4) 12 },
        { name := "columns", ty := .array (.array (.primitive .u8) 41) 2 }] }]
  functions := [
    { name := "each"
      params := [
        { name := "view", ty := .slice .mutable (.named "cell") },
        { name := "visit", ty := .closure [.slice .const (.named "cell"), .string .mutable] none }]
      returns := some (.owned (.slice .mutable (.named "cell"))) }]

theorem cells_expr_eq_iff :
    (generateMain bareEnvironment {} cells .python []).2.result =
        .ok (moduleText {} (statements {} cells)) ∧
      expr (.slice .mutable (.named "cell")) = expr (.slice .const (.named "cell")) ∧
      expr (.array (.array (.primitive .u8) 4) 12) ≠
        expr (.array (.array (.primitive .u8) 41) 2) := by
  have valid : cells.validated.result = .ok cells := rfl
  have made : (generateMain bareEnvironment {} cells .python []).2.result =
      .ok (moduleText {} (statements {} cells)) := by
    rw [generateMain_python_ok rfl valid rfl, file_eq]
  have declared {t : Ty} (listed : t ∈ Header.declaredTypes cells) : cells.Occurs t :=
    ⟨t, listed, .refl⟩
  have visited : cells.Occurs (.slice .const (.named "cell")) :=
    (declared (t := .closure [.slice .const (.named "cell"), .string .mutable] none)
      (by decide)).child (by decide)
  refine ⟨made, ?_, ?_⟩
  · exact (expr_eq_iff_frozen made (declared (by decide)) visited).mpr rfl
  · intro same
    have arrays := (expr_eq_iff_frozen made (declared (by decide)) (declared (by decide))).mp same
    exact absurd arrays (by decide)

end Generated

end Bindery
