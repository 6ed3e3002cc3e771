import Bindery.Proofs.Header.Reading

set_option autoImplicit false
set_option relaxedAutoImplicit false

/-!
The declarations of the headers mean what the types of a description say. What is declared of a type
reads back as the name with the type that is meant: pointers and arrays nested alike, with their
lengths, and qualified where a pointer leads to what must not be written. So do the declarators of
functions and of pointers to functions, with their parameters and any result.
-/

namespace Bindery.Header

/-! ### What types mean -/

namespace CType

/-- A type that must not be written; of an array this says that its elements must not be. -/
def toConst : CType → CType
  | .base _ leaf => .base true leaf
  | .pointer _ target => .pointer true target
  | .array element len => .array element.toConst len
  | .function params result => .function params result

def behind (m : Mutability) (t : CType) : CType := if m.isMutable then t else t.toConst

end CType

/-- The type of C that a type means. A level is qualified by the pointer that leads to it. -/
def meant (tag : String) : Ty → CType
  | .primitive p => .base false (.primitive p)
  | .named name => .base false (.struct name)
  | .pointer m pointee => .pointer false ((meant tag pointee).behind m)
  | .string m => .pointer false ((CType.base false .char).behind m)
  | .array element len => .array (meant tag element) len
  | t => .base false (.alias (typedefName tag t))

def meantResult (tag : String) : Option Ty → CType
  | none => .base false .void
  | some t => meant tag t

theorem denote_eq_meant (tag : String) (t : Ty) :
    denote tag false t = meant tag t ∧ denote tag true t = (meant tag t).toConst := by
  fun_induction meant tag t with
  | case3 m pointee ih =>
    cases m <;> simp [denote, CType.toConst, CType.behind, Mutability.isMutable, ih]
  | case4 m => cases m <;> simp [denote, CType.toConst, CType.behind, Mutability.isMutable]
  | case5 element len ih => simp [denote, CType.toConst, ih]
  | _ => simp_all [denote, CType.toConst]

theorem meant_ne_void (tag : String) (t : Ty) : meant tag t ≠ .base false .void := by
  cases t <;> simp [meant]

/-- A type that C has a spelling for: what it owns are pointers and slices, and its names are
words. -/
structure Spellable (t : Ty) : Prop where
  owns : t.OwnsReferences
  named : ∀ name ∈ t.names, IsWord name

theorem Spellable.child {t u : Ty} (spellable : Spellable t) (child : u ∈ t.children) :
    Spellable u where
  owns inner inside := spellable.owns inner (.head child inside)
  named name used := spellable.named name (Ty.mem_names_of_child child used)

theorem Spellable.of_children {t : Ty}
    (owned : ∀ inner, t = .owned inner → inner.isReference = true)
    (named : ∀ name, t = .named name → IsWord name) (children : ∀ u ∈ t.children, Spellable u) :
    Spellable t where
  owns inner inside := by
    rcases inside.cases_head with same | ⟨u, child, below⟩
    · exact owned inner same
    · exact (children u child).owns inner below
  named name used := by
    rcases (Ty.mem_names_iff.mp used).cases_head with same | ⟨u, child, below⟩
    · exact named name same
    · exact (children u child).named name (Ty.mem_names_iff.mpr below)

def typeWords : List String :=
  ["const", "struct", "char", "void"] ++ Primitive.all.map primitiveName

theorem baseOf_of_not_mem {name : String} (free : name ∉ typeWords) :
    Reading.baseOf name = .alias name := by
  have none : Primitive.all.find? (fun p => primitiveName p == name) = none := by
    rw [List.find?_eq_none]
    intro p listed same
    exact free (List.mem_append_right _ (List.mem_map.mpr ⟨p, listed, by simpa using same⟩))
  have others : name ≠ "char" ∧ name ≠ "void" := by
    constructor <;> rintro rfl <;> exact free (by decide)
  rw [Reading.baseOf, none]
  simp [others]

theorem legible_typedefName {tag : String} (front : FrontsNames tag) {t : Ty}
    (carrier : isCarrier t = true) (spellable : Spellable t) :
    Reading.Legible (.alias (typedefName tag t)) := by
  have free : typedefName tag t ∉ typeWords := by
    have apart : ∀ m ∈ marks, ∀ word ∈ typeWords, ¬ m.toList <:+: word.toList := by decide +kernel
    obtain ⟨mark, listed, rest, same⟩ := typedefName_marked tag carrier
    rw [same]
    intro word
    refine apart mark listed _ word ?_
    rw [String.toList_append, String.toList_append]
    exact ⟨tag.toList, rest.toList, rfl⟩
  have word : IsWord (typedefName tag t) := by
    have lead : IsWord (tag ++ "_") :=
      front.append_word (isWord_of_isPrefix (by decide) (by decide))
    exact lead.append (isContinuation_mangle fun name used =>
      (spellable.named name used).continuation)
  refine ⟨word, ?_, ?_, baseOf_of_not_mem free⟩
  · exact fun same => free (same ▸ by decide)
  · exact fun same => free (same ▸ by decide)

theorem plain_denote {tag : String} (front : FrontsNames tag) (isConst : Bool) {t : Ty}
    (spellable : Spellable t) : Reading.Plain (denote tag isConst t) := by
  induction t using Ty.size_induction generalizing isConst with
  | step t ih =>
    have inside (isConst : Bool) (u : Ty) (child : u ∈ t.children) :
        Reading.Plain (denote tag isConst u) :=
      ih u (Ty.size_lt_of_mem_children child) isConst (spellable.child child)
    have carried (carrier : isCarrier t = true) :
        Reading.Plain (.base isConst (.alias (typedefName tag t))) :=
      .base isConst (legible_typedefName front carrier spellable)
    cases t with
    | primitive p => exact .base isConst trivial
    | named name => exact .base isConst (spellable.named name (Ty.mem_names_iff.mpr .refl))
    | string m => exact .pointer isConst (.base _ trivial)
    | pointer m pointee => exact .pointer isConst (inside _ pointee List.mem_cons_self)
    | array element len => exact .array len (inside isConst element List.mem_cons_self)
    | owned inner => exact carried (isCarrier_owned (spellable.owns inner .refl))
    | slice | function | closure => exact carried rfl

/-- A name that can be declared, or none; C takes the word `const` for a qualifier. -/
def Declarable (name : String) : Prop := name = "" ∨ IsWord name ∧ name ≠ "const"

theorem spells_name {name : String} (declarable : Declarable name) :
    Reading.Spells name (.name name) := by
  rcases declarable with rfl | ⟨word, free⟩
  · exact .unnamed
  · exact .identifier word free

theorem functionOf_declarable (params : String) {name : String} (declarable : Declarable name) :
    functionOf params name = name ++ "(" ++ params ++ ")" := by
  have plain : name.toList.head? ≠ some '*' := by
    rcases declarable with rfl | ⟨word, -⟩
    · simp
    · exact word.unstarred
  rw [Reading.functionOf_eq, Reading.suffixed, if_neg plain]
  simp [← String.toList_inj]

theorem declares_meant {tag : String} (front : FrontsNames tag) {t : Ty} (spellable : Spellable t)
    {text : String} {d : Reading.Declarator} (spells : Reading.Spells text d) :
    Reading.Declares (declare tag t text) d.declared (d.type (meant tag t)) := by
  rw [declare_eq, ← (denote_eq_meant tag t).1]
  exact Reading.declares_declare (plain_denote front false spellable) spells

theorem declares_meantResult {tag : String} (front : FrontsNames tag) {returns : Option Ty}
    (spellable : ∀ t ∈ returns, Spellable t) {text : String} {d : Reading.Declarator}
    (spells : Reading.Spells text d) :
    Reading.Declares (declareReturn tag returns text) d.declared
      (d.type (meantResult tag returns)) := by
  cases returns with
  | none => exact Reading.declares_base (b := .void) trivial false spells
  | some t => exact declares_meant front (spellable t rfl) spells

def parameterTexts (tag : String) (state : Bool) (params : List Param) : List String :=
  (if state then ["void *"] else []) ++ params.map fun p => declare tag p.ty p.name

def meantParameters (tag : String) (state : Bool) (params : List Param) : List CType :=
  (if state then [CType.anything] else []) ++ params.map fun p => meant tag p.ty

theorem declaresAll_parameterTexts {tag : String} (front : FrontsNames tag) (state : Bool)
    {params : List Param} (proper : ∀ p ∈ params, Spellable p.ty ∧ Declarable p.name) :
    Reading.DeclaresAll (parameterTexts tag state params) (meantParameters tag state params) := by
  have named : Reading.DeclaresAll (params.map fun p => declare tag p.ty p.name)
      (params.map fun p => meant tag p.ty) := by
    induction params with
    | nil => exact .nil
    | cons p params ih =>
      obtain ⟨spellable, declarable⟩ := proper p List.mem_cons_self
      refine .cons ⟨meant_ne_void tag p.ty, p.name, ?_⟩
        (ih fun q member => proper q (List.mem_cons_of_mem _ member))
      exact declares_meant front spellable (spells_name declarable)
  cases state with
  | false => exact named
  | true =>
    have spelled : "void *" = CType.anything.declare "" := by decide +kernel
    refine .cons ⟨by simp [CType.anything], "", ?_⟩ named
    rw [spelled]
    have legible : Reading.Legible .void := trivial
    have plain : Reading.Plain .anything := .pointer false (.base false legible)
    exact Reading.declares_declare plain .unnamed

/-- What is declared of a type reads back as the name with the type that is meant, and so do
functions and pointers to functions. -/
theorem declared_as_meant {tag : String} (front : FrontsNames tag) :
    (∀ t name, Spellable t → Declarable name →
      Reading.read (declare tag t name) = some (name, meant tag t)) ∧
    ∀ returns state params f, (∀ t ∈ returns, Spellable t) →
      (∀ p ∈ params, Spellable p.ty ∧ Declarable p.name) → Declarable f →
      Reading.read (declareReturn tag returns
          (f ++ "(" ++ parameters (parameterTexts tag state params) ++ ")")) =
        some (f, .function (meantParameters tag state params) (meantResult tag returns)) ∧
      Reading.read (declareReturn tag returns
          ("(*" ++ f ++ ")(" ++ parameters (parameterTexts tag state params) ++ ")")) =
        some (f, .pointer false
          (.function (meantParameters tag state params) (meantResult tag returns))) := by
  refine ⟨fun t name spellable declarable => ?_, fun returns state params f result proper own => ?_⟩
  · exact (declares_meant front spellable (spells_name declarable)).read_eq
  · obtain ⟨pieces, groups, lists⟩ :=
      Reading.lists_parameters (declaresAll_parameterTexts front state proper)
    have direct := (spells_name own).function groups lists
    have starred := ((spells_name own).pointer false).function groups lists
    rw [pointerTo, if_neg Bool.false_ne_true, functionOf_star] at starred
    rw [functionOf_declarable _ own] at direct
    exact ⟨(declares_meantResult front result direct).read_eq,
      (declares_meantResult front result starred).read_eq⟩

def rows : Ty := .pointer .const (.array (.pointer .mutable (.primitive .u8)) 3)

theorem spellable_rows : Spellable rows := by
  have byte : Spellable (.primitive .u8) := .of_children (by simp) (by simp) (by simp [Ty.children])
  have reference : Spellable (.pointer .mutable (.primitive .u8)) :=
    .of_children (by simp) (by simp) (by simpa [Ty.children] using byte)
  have row : Spellable (.array (.pointer .mutable (.primitive .u8)) 3) :=
    .of_children (by simp) (by simp) (by simpa [Ty.children] using reference)
  exact .of_children (by simp [rows]) (by simp [rows]) (by simpa [rows, Ty.children] using row)

theorem rows_as_meant :
    Reading.read "uint8_t *const (*rows)[3]" =
      some ("rows", .pointer false (.array (.pointer true (.base false (.primitive .u8))) 3)) ∧
    Reading.read "const char *(*next)(void *, uint8_t *const (*)[3])" =
      some ("next", .pointer false (.function
        [.anything, .pointer false (.array (.pointer true (.base false (.primitive .u8))) 3)]
        (.pointer false (.base true .char)))) := by
  have string : Spellable (.string .const) :=
    .of_children (by simp) (by simp) (by simp [Ty.children])
  have front : FrontsNames "kv" := Options.isPrefix_iff.mp (by decide)
  have declarable {name : String} (proper : name ≠ "") (checked : Options.isPrefix name = true)
      (free : name ≠ "const") : Declarable name :=
    .inr ⟨isWord_of_isPrefix proper checked, free⟩
  have named := (declared_as_meant front).1 rows "rows" spellable_rows
    (declarable (by decide) (by decide) (by decide))
  have callback := ((declared_as_meant front).2 (some (.string .const)) true [⟨"", rows⟩] "next"
    (by simpa using string) (by simpa using ⟨spellable_rows, .inl rfl⟩)
    (declarable (by decide) (by decide) (by decide))).2
  have rowsText : declare "kv" rows "rows" = "uint8_t *const (*rows)[3]" := by decide +kernel
  have nextText : declareReturn "kv" (some (.string .const))
      ("(*" ++ "next" ++ ")(" ++ parameters (parameterTexts "kv" true [⟨"", rows⟩]) ++ ")") =
        "const char *(*next)(void *, uint8_t *const (*)[3])" := by decide +kernel
  rw [rowsText] at named
  rw [nextText] at callback
  exact ⟨named, callback⟩

end Bindery.Header
