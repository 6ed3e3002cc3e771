import Bindery.Proofs.Header.Syntax
import Bindery.Proofs.Validity.Arranged
import Mathlib.Logic.Relation

set_option autoImplicit false
set_option relaxedAutoImplicit false

/-!
What a type is made of once it is spelled in C. An owned pointer holds what it points to, and an
owned slice holds a slice that can be written, whatever the description says. The types that need a
typedef are the parts of this kind, and the form that a type has in C keeps its name and its
spelling.
-/

namespace Bindery

namespace Ty

def Inside (u t : Ty) : Prop := Relation.ReflTransGen (fun t u => u ∈ t.children) t u

/-- Everything that is owned in a type is a pointer or a slice. -/
def OwnsReferences (t : Ty) : Prop := ∀ inner, Inside (.owned inner) t → inner.isReference = true

/-- The types from which the C form of a type is built. -/
def parts : Ty → List Ty
  | .owned (.pointer _ pointee) => [pointee]
  | .owned (.slice _ element) => [.slice .mutable element]
  | t => t.children

/-- A type is another one or one of its parts, however deep. -/
def Part (u t : Ty) : Prop := Relation.ReflTransGen (fun t u => u ∈ t.parts) t u

theorem size_lt_of_mem_parts {t u : Ty} (part : u ∈ t.parts) : u.size < t.size := by
  unfold parts at part
  split at part
  · obtain rfl := List.mem_singleton.mp part
    simp only [size]
    omega
  · obtain rfl := List.mem_singleton.mp part
    simp only [size]
    omega
  · exact size_lt_of_mem_children part

theorem inside_of_child {t u v : Ty} (child : v ∈ t.children) (inside : Inside u v) : Inside u t :=
  Relation.ReflTransGen.head child inside

theorem part_iff {t u : Ty} : Part u t ↔ u = t ∨ ∃ v ∈ t.parts, Part u v := by
  rw [Part, Relation.ReflTransGen.cases_head_iff]
  exact or_congr_left eq_comm

/-- Apart from the slices that owned slices hold, nothing new comes up in the parts of a type. -/
theorem inside_of_mem_parts {t u v : Ty} (part : v ∈ t.parts) (inside : Inside u v)
    (noSlice : ∀ m element, u ≠ .slice m element) : Inside u t := by
  unfold parts at part
  split at part
  · rename_i m pointee
    obtain rfl := List.mem_singleton.mp part
    exact inside_of_child List.mem_cons_self (inside_of_child List.mem_cons_self inside)
  · rename_i m element
    obtain rfl := List.mem_singleton.mp part
    rcases Relation.ReflTransGen.cases_head_iff.mp inside with rfl | ⟨w, child, within⟩
    · exact absurd rfl (noSlice _ _)
    · obtain rfl := List.mem_singleton.mp child
      exact inside_of_child List.mem_cons_self (inside_of_child List.mem_cons_self within)
  · exact inside_of_child part inside

theorem inside_of_part {t u v : Ty} (part : Part v t) (inside : Inside u v)
    (noSlice : ∀ m element, u ≠ .slice m element) : Inside u t := by
  induction part using Relation.ReflTransGen.head_induction_on with
  | refl => exact inside
  | head step _ ih => exact inside_of_mem_parts step ih noSlice

theorem OwnsReferences.child {t u : Ty} (owns : t.OwnsReferences) (child : u ∈ t.children) :
    u.OwnsReferences :=
  fun inner inside => owns inner (inside_of_child child inside)

theorem OwnsReferences.part {t u : Ty} (owns : t.OwnsReferences) (part : Part u t) :
    u.OwnsReferences :=
  fun inner inside => owns inner (inside_of_part part inside (by simp))

theorem Part.of_mem {t u : Ty} (part : u ∈ t.parts) : Part u t := Relation.ReflTransGen.single part

theorem spot_of_inside (site : Site) {t u : Ty} (inside : Inside u t) (above : List Ty) :
    ∃ around, .use site around u ∈ t.spots site above := by
  induction inside using Relation.ReflTransGen.head_induction_on generalizing above with
  | refl =>
    refine ⟨above, ?_⟩
    rw [spots_eq]
    exact List.mem_cons_self
  | @head t v child _ ih =>
    obtain ⟨around, found⟩ := ih (t :: above)
    refine ⟨around, ?_⟩
    rw [spots_eq]
    exact List.mem_cons_of_mem _ (List.mem_flatMap.mpr ⟨v, child, found⟩)

end Ty

namespace Items

theorem paramSpot_mem {items : Items} {f : Function} {p : Param} {spot : Spot}
    (function : f ∈ items.functions) (param : p ∈ f.params)
    (inside : spot ∈ p.ty.spots (.argument f.name p.name) []) : spot ∈ items.spots := by
  obtain ⟨before, entry⟩ := mem_withEarlier Param.name [] param
  have own : spot ∈ paramSpots f :=
    List.mem_flatMap.mpr ⟨(before, p), entry, List.mem_cons_of_mem _ inside⟩
  exact List.mem_append_right _
    (List.mem_flatMap.mpr ⟨f, function, List.mem_append_left _ own⟩)

theorem resultSpot_mem {items : Items} {f : Function} {t : Ty} {spot : Spot}
    (function : f ∈ items.functions) (result : t ∈ f.returns.toList)
    (inside : spot ∈ t.spots (.returns f.name) []) : spot ∈ items.spots := by
  have own : spot ∈ resultSpots f := List.mem_flatMap.mpr ⟨t, result, inside⟩
  exact List.mem_append_right _
    (List.mem_flatMap.mpr ⟨f, function, List.mem_append_right _ own⟩)

theorem field_mem_declaredTypes {items : Items} {s : Struct}
    (struct : s ∈ items.structs) {f : Field}
    (field : f ∈ s.fields) : f.ty ∈ Header.declaredTypes items :=
  List.mem_append_left _ (List.mem_flatMap.mpr ⟨s, struct, List.mem_map_of_mem field⟩)

theorem signature_mem_declaredTypes {items : Items} {f : Function} (function : f ∈ items.functions)
    {t : Ty} (used : t ∈ f.params.map Param.ty ++ f.returns.toList) :
    t ∈ Header.declaredTypes items :=
  List.mem_append_right _ (List.mem_flatMap.mpr ⟨f, function, used⟩)

theorem declaredType_spots {items : Items} {t : Ty} (declared : t ∈ Header.declaredTypes items) :
    ∃ site, ∀ spot ∈ t.spots site [], spot ∈ items.spots := by
  rcases List.mem_append.mp declared with field | signature
  · obtain ⟨s, struct, inFields⟩ := List.mem_flatMap.mp field
    obtain ⟨f, member, rfl⟩ := List.mem_map.mp inFields
    exact ⟨_, fun spot => fieldSpot_mem struct member⟩
  · obtain ⟨f, function, inSignature⟩ := List.mem_flatMap.mp signature
    rcases List.mem_append.mp inSignature with param | result
    · obtain ⟨p, member, rfl⟩ := List.mem_map.mp param
      exact ⟨_, fun spot => paramSpot_mem function member⟩
    · exact ⟨_, fun spot => resultSpot_mem function result⟩

theorem not_faulty_inside {items out : Items} (accepted : items.arranged = .ok out) {t u : Ty}
    (declared : t ∈ Header.declaredTypes items) (inside : u.Inside t) :
    ∃ site around, ∀ p, ¬ items.Faulty (.use site around u) p := by
  obtain ⟨site, within⟩ := declaredType_spots declared
  obtain ⟨around, found⟩ := Ty.spot_of_inside site inside []
  exact ⟨site, around, not_faulty_of_arranged accepted (within _ found)⟩

theorem ownsReferences_of_arranged {items out : Items}
    (accepted : items.arranged = .ok out) {t : Ty}
    (declared : t ∈ Header.declaredTypes items) : t.OwnsReferences := by
  intro inner inside
  obtain ⟨site, around, sound⟩ := not_faulty_inside accepted declared inside
  by_contra wrong
  obtain ⟨noPointer, noSlice⟩ := (isReference_eq_false_iff inner).mp (by simpa using wrong)
  exact sound _ (.invalidOwned noPointer noSlice)

/-- A type stands somewhere in the fields, parameters or results of a description. -/
def Occurs (items : Items) (u : Ty) : Prop :=
  ∃ t ∈ Header.declaredTypes items, u.Inside t

theorem Occurs.child {items : Items} {t u : Ty} (occurs : items.Occurs t) (child : u ∈ t.children) :
    items.Occurs u := by
  obtain ⟨top, declared, inside⟩ := occurs
  exact ⟨top, declared, inside.tail child⟩

theorem Occurs.isReference {items out : Items} (accepted : items.arranged = .ok out) {inner : Ty}
    (occurs : items.Occurs (.owned inner)) : inner.isReference = true := by
  obtain ⟨top, declared, inside⟩ := occurs
  exact ownsReferences_of_arranged accepted declared inner inside

theorem mem_names_of_arranged {items out : Items} (accepted : items.arranged = .ok out) {t : Ty}
    (declared : t ∈ Header.declaredTypes items) {name : String}
    (inside : (Ty.named name).Inside t) :
    name ∈ items.structNames ∨ name ∈ items.abstractNames := by
  obtain ⟨site, around, sound⟩ := not_faulty_inside accepted declared inside
  by_contra neither
  obtain ⟨noStruct, noAbstract⟩ := not_or.mp neither
  by_cases function : name ∈ items.functionNames
  · exact sound _ (.notAType noStruct noAbstract function)
  · exact sound _ (.unknownType noStruct noAbstract function)

theorem isArray_of_handedOver {items out : Items}
    (accepted : items.arranged = .ok out) {site : Site}
    (handed : HandedOver site []) {t : Ty} (within : ∀ spot ∈ t.spots site [], spot ∈ items.spots) :
    t.isArray = false := by
  have spot : .use site [] t ∈ t.spots site [] := by
    rw [Ty.spots_eq]
    exact List.mem_cons_self
  have sound := not_faulty_of_arranged accepted (within _ spot)
  cases t with
  | array element len => exact absurd (.arrayByValue handed) (sound _)
  | _ => rfl

theorem isArray_signature {items out : Items} (accepted : items.arranged = .ok out) {f : Function}
    (function : f ∈ items.functions) {t : Ty}
    (used : t ∈ f.params.map Param.ty ++ f.returns.toList) : t.isArray = false := by
  rcases List.mem_append.mp used with inParams | result
  · obtain ⟨p, param, rfl⟩ := List.mem_map.mp inParams
    exact isArray_of_handedOver accepted (.argument f.name p.name) fun _ =>
      paramSpot_mem function param
  · exact isArray_of_handedOver accepted (.returns f.name) fun _ => resultSpot_mem function result

theorem structs_perm_of_arranged {items out : Items} (accepted : items.arranged = .ok out) :
    out.structs.Perm items.structs := by
  obtain ⟨order, found, rfl⟩ := arranged_eq accepted
  exact arrangeBy_perm (layoutOrder_perm found)

theorem structNames_perm_of_arranged {items out : Items} (accepted : items.arranged = .ok out) :
    out.structNames.Perm items.structNames :=
  (structs_perm_of_arranged accepted).map Struct.name

theorem abstractNames_of_arranged {items out : Items} (accepted : items.arranged = .ok out) :
    out.abstractNames = items.abstractNames := by
  rw [abstractNames, abstractStructs_of_arranged accepted, abstractNames]

theorem functionNames_of_arranged {items out : Items} (accepted : items.arranged = .ok out) :
    out.functionNames = items.functionNames := by
  rw [functionNames, functions_of_arranged accepted, functionNames]

/-- Arranging changes neither the structs nor the functions, so it keeps the declared types. -/
theorem mem_declaredTypes_of_arranged {items out : Items} (accepted : items.arranged = .ok out)
    {t : Ty} (declared : t ∈ Header.declaredTypes out) : t ∈ Header.declaredTypes items := by
  rcases List.mem_append.mp declared with field | signature
  · obtain ⟨s, struct, inFields⟩ := List.mem_flatMap.mp field
    have member := (structs_perm_of_arranged accepted).subset struct
    exact List.mem_append_left _ (List.mem_flatMap.mpr ⟨s, member, inFields⟩)
  · obtain ⟨order, -, rfl⟩ := arranged_eq accepted
    exact List.mem_append_right _ signature

theorem mem_structNames_of_declared {items out : Items}
    (accepted : items.arranged = .ok out) {t : Ty}
    (declared : t ∈ Header.declaredTypes out) {name : String}
    (contained : t.byValueName = some name) : name ∈ out.structNames := by
  obtain ⟨site, within⟩ := declaredType_spots (mem_declaredTypes_of_arranged accepted declared)
  have outermost : ¬ BehindPointer [] := by simp [BehindPointer]
  obtain ⟨around, held, inside⟩ := t.byValueName_spot site contained outermost
  have struct := mem_structNames_of_held accepted (within _ inside) held
  exact (structNames_perm_of_arranged accepted).mem_iff.mpr struct

end Items

/-! ### The form in C -/

namespace Header

theorem mangleArgs_inCAll {args : List Ty} (same : ∀ t ∈ args, mangle t.inC = mangle t) :
    mangleArgs (Ty.inCAll args) = mangleArgs args := by
  induction args with
  | nil => rfl
  | cons t ts ih =>
    rw [Ty.inCAll, mangleArgs, mangleArgs, same t List.mem_cons_self,
      ih fun u member => same u (List.mem_cons_of_mem _ member)]

theorem mangleResult_inCOption {returns : Option Ty}
    (same : ∀ t ∈ returns.toList, mangle t.inC = mangle t) :
    mangleResult (Ty.inCOption returns) = mangleResult returns := by
  cases returns with
  | none => rfl
  | some t => exact same t List.mem_cons_self

theorem inC_owned {inner : Ty} (other : inner.isReference = false) :
    (Ty.owned inner).inC = inner.inC := by
  cases inner <;> simp_all [Ty.inC, Ty.isReference]

theorem mangle_owned {inner : Ty} (other : inner.isReference = false) :
    mangle (.owned inner) = mangle inner := by
  cases inner <;> simp_all [mangle, Ty.isReference]

theorem mangle_inC (t : Ty) : mangle t.inC = mangle t := by
  induction t using Ty.size_induction with
  | step t ih =>
    have inside : ∀ u ∈ t.children, mangle u.inC = mangle u :=
      fun u child => ih u (Ty.size_lt_of_mem_children child)
    cases t with
    | primitive p => rfl
    | string m => rfl
    | named name => rfl
    | pointer m pointee =>
      cases m <;> rw [Ty.inC, mangle, mangle, inside pointee List.mem_cons_self]
    | slice m element => rw [Ty.inC, mangle, mangle, inside element List.mem_cons_self]
    | array element len => rw [Ty.inC, mangle, mangle, inside element List.mem_cons_self]
    | function args returns | closure args returns =>
      rw [Ty.inC, mangle, mangle, mangleArgs_inCAll, mangleResult_inCOption]
      · exact fun u member => inside u (List.mem_append_right _ member)
      · exact fun u member => inside u (List.mem_append_left _ member)
    | owned inner =>
      cases reference : inner.isReference with
      | false =>
        rw [inC_owned reference, mangle_owned reference]
        exact inside inner List.mem_cons_self
      | true =>
        -- What is owned through a reference is one level further down.
        cases inner with
        | pointer m pointee =>
          rw [Ty.inC, mangle, mangle, ih pointee (Ty.size_lt_of_owned List.mem_cons_self)]
        | slice m element =>
          rw [Ty.inC, mangle, mangle, ih element (Ty.size_lt_of_owned List.mem_cons_self)]
        | _ => simp [Ty.isReference] at reference

theorem typedefName_inC (tag : String) (t : Ty) : typedefName tag t.inC = typedefName tag t := by
  rw [typedefName, typedefName, mangle_inC]

theorem inCAll_eq_map (ts : List Ty) : Ty.inCAll ts = ts.map Ty.inC := by
  induction ts with
  | nil => rfl
  | cons t ts ih => rw [Ty.inCAll, ih, List.map_cons]

theorem inCOption_eq_map (t : Option Ty) : Ty.inCOption t = t.map Ty.inC := by
  cases t <;> rfl

theorem denote_carrier (tag : String) (isConst : Bool) {t : Ty} (carrier : isCarrier t = true) :
    denote tag isConst t = .base isConst (.alias (typedefName tag t)) := by
  cases t <;> simp_all [isCarrier, denote]

theorem isCarrier_owned {inner : Ty} (reference : inner.isReference = true) :
    isCarrier (.owned inner) = true := by
  cases inner <;> simp_all [isCarrier, Ty.isReference]

theorem isCarrier_inC {t : Ty} (carrier : isCarrier t = true) : isCarrier t.inC = true := by
  unfold isCarrier at carrier
  split at carrier
  all_goals simp_all [Ty.inC, isCarrier]

theorem denote_inC_carrier (tag : String) (isConst : Bool) {t : Ty} (carrier : isCarrier t = true) :
    denote tag isConst t.inC = denote tag isConst t := by
  rw [denote_carrier tag isConst carrier, denote_carrier tag isConst (isCarrier_inC carrier),
    typedefName_inC]

theorem denote_inC (tag : String) (isConst : Bool) {t : Ty} (owns : t.OwnsReferences) :
    denote tag isConst t.inC = denote tag isConst t := by
  induction t using Ty.size_induction generalizing isConst with
  | step t ih =>
    have inside : ∀ isConst, ∀ u ∈ t.parts, denote tag isConst u.inC = denote tag isConst u :=
      fun isConst u part => ih u (Ty.size_lt_of_mem_parts part) isConst (owns.part (.of_mem part))
    cases t with
    | primitive p => rfl
    | string m => rfl
    | named name => rfl
    | pointer m pointee => rw [Ty.inC, denote, denote, inside _ pointee List.mem_cons_self]
    | array element len => rw [Ty.inC, denote, denote, inside _ element List.mem_cons_self]
    | owned inner => exact denote_inC_carrier tag isConst (isCarrier_owned (owns inner .refl))
    | _ => exact denote_inC_carrier tag isConst rfl

theorem denoteResult_inC (tag : String) {returns : Option Ty}
    (owns : ∀ t ∈ returns.toList, t.OwnsReferences) :
    denoteResult tag (returns.map Ty.inC) = denoteResult tag returns := by
  cases returns with
  | none => rfl
  | some t => exact denote_inC tag false (owns t List.mem_cons_self)

theorem denoteArgs_inC (tag : String) {args : List Ty} (owns : ∀ t ∈ args, t.OwnsReferences) :
    (args.map Ty.inC).map (denote tag false) = args.map (denote tag false) := by
  rw [List.map_map]
  exact List.map_congr_left fun t member => denote_inC tag false (owns t member)

theorem typedefOf_inC (tag : String) {t : Ty} (carrier : isCarrier t = true)
    (owns : t.OwnsReferences) : typedefOf tag t.inC = typedefOf tag t := by
  have parts : ∀ u ∈ t.parts, u.OwnsReferences := fun u part => owns.part (.of_mem part)
  have name := typedefName_inC tag t
  unfold isCarrier at carrier
  split at carrier
  · rename_i m element
    have same := denote_inC tag (!m.isMutable) (parts element List.mem_cons_self)
    rw [Ty.inC] at name ⊢
    rw [typedefOf, typedefOf, name, same]
  · rename_i m pointee
    have same := denote_inC tag false (parts pointee List.mem_cons_self)
    rw [Ty.inC] at name ⊢
    rw [typedefOf, typedefOf, name, same]
  · rename_i m element
    have view := typedefName_inC tag (.slice .mutable element)
    simp only [Ty.inC] at name view ⊢
    rw [typedefOf, typedefOf, name, view]
  · rename_i args returns
    have arguments := denoteArgs_inC tag fun u member => parts u (List.mem_append_left _ member)
    have result := denoteResult_inC tag fun u member => parts u (List.mem_append_right _ member)
    rw [Ty.inC, inCAll_eq_map, inCOption_eq_map] at name ⊢
    rw [typedefOf, typedefOf, name, arguments, result]
  · rename_i args returns
    have arguments := denoteArgs_inC tag fun u member => parts u (List.mem_append_left _ member)
    have result := denoteResult_inC tag fun u member => parts u (List.mem_append_right _ member)
    rw [Ty.inC, inCAll_eq_map, inCOption_eq_map] at name ⊢
    rw [typedefOf, typedefOf, name, arguments, result]
  · simp at carrier

end Header

end Bindery
