import Bindery.Proofs.Generate

set_option autoImplicit false
set_option relaxedAutoImplicit false

/-!
Where the layout of a struct has to be known. In C a struct that is held by value, or that is the
element of an array, must be defined before; in the loader module an array takes the size of its
element when its expression is evaluated. Main statement: both hold of the generated files exactly
if no type with a typedef has an array of structs inside it, and every array of structs inside a
field names a struct that comes before.
-/

namespace Bindery

namespace Ty

def HasArrayOf (name : String) (t : Ty) : Prop := ∃ n, (Ty.array (.named name) n).Inside t

theorem hasArrayOf_iff {name : String} {t : Ty} :
    t.HasArrayOf name ↔
      (∃ n, t = .array (.named name) n) ∨ ∃ u ∈ t.children, u.HasArrayOf name := by
  constructor
  · rintro ⟨n, inside⟩
    rcases Relation.ReflTransGen.cases_head_iff.mp inside with same | ⟨u, child, below⟩
    · exact .inl ⟨n, same⟩
    · exact .inr ⟨u, child, n, below⟩
  · rintro (⟨n, rfl⟩ | ⟨u, child, n, below⟩)
    · exact ⟨n, .refl⟩
    · exact ⟨n, inside_of_child child below⟩

theorem hasArrayOf_iff_parts {name : String} {t : Ty} :
    t.HasArrayOf name ↔ (∃ n, t = .array (.named name) n) ∨ ∃ u ∈ t.parts, u.HasArrayOf name := by
  rw [hasArrayOf_iff]
  unfold parts
  split
  · rename_i m pointee
    simp [children, hasArrayOf_iff (t := .pointer m pointee)]
  · rename_i m element
    simp [children, hasArrayOf_iff (t := .slice m element),
      hasArrayOf_iff (t := .slice .mutable element)]
  · exact Iff.rfl

theorem spots_of_inside (site : Site) {t u : Ty} (inside : Inside u t) (above : List Ty) :
    ∃ around, ∀ spot ∈ u.spots site around, spot ∈ t.spots site above := by
  induction inside using Relation.ReflTransGen.head_induction_on generalizing above with
  | refl => exact ⟨above, fun _ => id⟩
  | @head t v child _ ih =>
    obtain ⟨around, found⟩ := ih (t :: above)
    refine ⟨around, fun spot member => ?_⟩
    rw [spots_eq]
    exact List.mem_cons_of_mem _ (List.mem_flatMap.mpr ⟨v, child, found spot member⟩)

end Ty

theorem Items.mem_structNames_of_hasArrayOf {items out : Items}
    (accepted : items.arranged = .ok out)
    {t : Ty} (declared : t ∈ Header.declaredTypes items) {name : String}
    (array : t.HasArrayOf name) : name ∈ items.structNames := by
  obtain ⟨n, inside⟩ := array
  obtain ⟨site, within⟩ := declaredType_spots declared
  obtain ⟨around, found⟩ := Ty.spots_of_inside site inside []
  have spot : Spot.use site (.array (.named name) n :: around) (.named name) ∈ items.spots := by
    refine within _ (found _ ?_)
    rw [Ty.spots_eq]
    refine List.mem_cons_of_mem _ (List.mem_flatMap.mpr ⟨.named name, List.mem_cons_self, ?_⟩)
    rw [Ty.spots_eq]
    exact List.mem_cons_self
  have held : ¬ BehindPointer (.array (.named name) n :: around) := by
    simp [BehindPointer, Ty.isOwned]
  exact mem_structNames_of_held accepted spot held

/-- Every array of structs inside a field names a struct that comes before. -/
def FieldArraysBefore (items : Items) : Prop :=
  EachAfter (fun before s => ∀ f ∈ s.fields, ∀ name, f.ty.HasArrayOf name →
    name ∈ before.map Struct.name) items.structs

/-! ### The loader module -/

namespace Loader

def Expr.named? : Expr → Option String
  | .name text => some text
  | _ => none

mutual

def Expr.elements : Expr → List String
  | .array element _ => element.named?.toList ++ element.elements
  | .call callee args => callee.elements ++ elementsAll args
  | _ => []

def Expr.elementsAll : List Expr → List String
  | [] => []
  | e :: es => e.elements ++ elementsAll es

end

theorem Expr.elementsAll_eq_flatMap (es : List Expr) : elementsAll es = es.flatMap elements := by
  induction es with
  | nil => rfl
  | cons e es ih => rw [elementsAll, ih, List.flatMap_cons]

def Statement.elements : Statement → List String
  | .factory f => f.fields.flatMap fun field => field.2.elements
  | .layout _ fields => fields.flatMap fun field => field.2.elements
  | _ => []

def Statement.assigns : Statement → Option String
  | .layout name _ => some name
  | _ => none

/-- Every array in a list of fields comes after the fields of its element. -/
def ArraysComplete (contents : List Statement) : Prop :=
  EachAfter (fun before s => ∀ name ∈ s.elements, ∃ b ∈ before, b.assigns = some name) contents

theorem named?_denote {t : Ty} (owns : t.OwnsReferences) {name : String} :
    (denote t).named? = some name ↔ t = .named name := by
  cases t with
  | owned inner =>
    have reference := owns inner .refl
    cases inner <;> simp_all [denote, Expr.named?, Ty.isReference]
  | _ => simp [denote, Expr.named?, pointerExpr, callbackExpr]

theorem mem_elements_denoteResult {r : Option Ty} {name : String} :
    name ∈ (denoteResult r).elements ↔ ∃ t ∈ r.toList, name ∈ (denote t).elements := by
  cases r <;> simp [denoteResult, Expr.elements]

theorem mem_elements_signature {callee : Expr} (plain : callee.elements = []) {args : List Ty}
    {r : Option Ty} {name : String} :
    name ∈ (Expr.call callee (denoteResult r :: denoteAll args)).elements ↔
      ∃ t ∈ args ++ r.toList, name ∈ (denote t).elements := by
  rw [Expr.elements, plain, List.nil_append, Expr.elementsAll, List.mem_append,
    mem_elements_denoteResult, Expr.elementsAll_eq_flatMap, denoteAll_eq_map]
  constructor
  · rintro (⟨t, result, inside⟩ | argument)
    · exact ⟨t, List.mem_append_right _ result, inside⟩
    · obtain ⟨e, listed, inside⟩ := List.mem_flatMap.mp argument
      obtain ⟨t, member, rfl⟩ := List.mem_map.mp listed
      exact ⟨t, List.mem_append_left _ member, inside⟩
  · rintro ⟨t, member, inside⟩
    rcases List.mem_append.mp member with argument | result
    · exact .inr (List.mem_flatMap.mpr ⟨_, List.mem_map.mpr ⟨t, argument, rfl⟩, inside⟩)
    · exact .inl ⟨t, result, inside⟩

theorem mem_elements_denote {t : Ty} (owns : t.OwnsReferences) {name : String} :
    name ∈ (denote t).elements ↔ t.HasArrayOf name := by
  induction t using Ty.size_induction with
  | step t ih =>
    have inside : ∀ u ∈ t.children, (name ∈ (denote u).elements ↔ u.HasArrayOf name) :=
      fun u child => ih u (Ty.size_lt_of_mem_children child) (owns.child child)
    rw [Ty.hasArrayOf_iff]
    cases t with
    | primitive p => simp [denote, Expr.elements, Ty.children]
    | named s => simp [denote, Expr.elements, Ty.children]
    | string m => simp [denote, Expr.elements, Ty.children]
    | pointer m pointee =>
      have target := inside pointee List.mem_cons_self
      simp [denote, pointerExpr, Expr.elements, Expr.elementsAll, Ty.children, target]
    | slice m element =>
      have target := inside element List.mem_cons_self
      simp [denote, Expr.elements, Expr.elementsAll, Ty.children, target]
    | array element len =>
      have target := inside element List.mem_cons_self
      have held : (denote element).named? = some name ↔ _ :=
        named?_denote (owns.child List.mem_cons_self)
      simp [denote, Expr.elements, Ty.children, target, held, eq_comm]
    | function args returns =>
      rw [denote, callbackExpr, mem_elements_signature rfl]
      simp only [reduceCtorEq, exists_false, false_or]
      exact exists_congr fun u => and_congr_right fun child => inside u child
    | closure args returns =>
      rw [denote, mem_elements_signature rfl]
      simp only [reduceCtorEq, exists_false, false_or]
      exact exists_congr fun u => and_congr_right fun child => inside u child
    | owned inner =>
      have reference := owns inner .refl
      have content := inside inner List.mem_cons_self
      cases inner with
      | pointer m pointee =>
        simpa [denote, pointerExpr, Expr.elements, Expr.elementsAll, Ty.children] using content
      | slice m element =>
        simpa [denote, Expr.elements, Expr.elementsAll, Ty.children] using content
      | _ => simp [Ty.isReference] at reference

theorem mem_elements_layout {s : Struct} (owns : ∀ f ∈ s.fields, f.ty.OwnsReferences)
    {name : String} : name ∈ (Statement.layout s.name (typedNames s)).elements ↔
      ∃ f ∈ s.fields, f.ty.HasArrayOf name := by
  rw [Statement.elements, typedNames, List.flatMap_map, List.mem_flatMap]
  exact exists_congr fun f => and_congr_right fun member => mem_elements_denote (owns f member)

theorem front_statements {items : Items} {s : Statement}
    (member : s ∈ supportStatements ++
      items.abstractStructs.map (fun s => .opened s.name (abstractDocs s)) ++
      items.structs.map fun s => .opened s.name (structDocs s)) :
    s.elements = [] ∧ s.assigns = none := by
  have support : ∀ s ∈ supportStatements, s.elements = [] ∧ s.assigns = none := by
    simp [supportStatements, Statement.elements, Statement.assigns, sliceClass, ownedPtrClass,
      ownedSliceClass, closureClass, callbackExpr, Expr.elements, Expr.elementsAll]
  rcases List.mem_append.mp member with first | struct
  · rcases List.mem_append.mp first with fixed | abstract
    · exact support s fixed
    · obtain ⟨a, -, rfl⟩ := List.mem_map.mp abstract
      exact ⟨rfl, rfl⟩
  · obtain ⟨a, -, rfl⟩ := List.mem_map.mp struct
    exact ⟨rfl, rfl⟩

theorem arraysComplete_iff {options : Options} {items : Items}
    (owns : ∀ s ∈ items.structs, ∀ f ∈ s.fields, f.ty.OwnsReferences) :
    ArraysComplete (statements options items) ↔ FieldArraysBefore items := by
  rw [ArraysComplete, statements, EachAfter.append_iff, EachAfter.append_iff, EachAfter.map_iff]
  constructor
  · rintro ⟨⟨-, layouts⟩, -⟩
    refine layouts.mono fun before _ s member complete f field name array => ?_
    have made := (mem_elements_layout (owns s member)).mpr ⟨f, field, array⟩
    obtain ⟨b, stored, assigns⟩ := complete name made
    rcases List.mem_append.mp stored with early | earlier
    · simp [(front_statements early).2] at assigns
    · obtain ⟨t, placed, rfl⟩ := List.mem_map.mp earlier
      exact List.mem_map.mpr ⟨t, placed, Option.some.inj assigns⟩
  · intro before
    refine ⟨⟨.of_forall fun _ s member => ?_, before.mono fun before _ s member known => ?_⟩, ?_⟩
    · simp [(front_statements member).1]
    · intro name made
      obtain ⟨f, field, array⟩ := (mem_elements_layout (owns s member)).mp made
      obtain ⟨t, placed, rfl⟩ := List.mem_map.mp (known f field name array)
      exact ⟨_, List.mem_append_right _ (List.mem_map.mpr ⟨t, placed, rfl⟩), rfl⟩
    · refine .of_forall fun _ s member => ?_
      obtain rfl := List.mem_singleton.mp member
      simp [Statement.elements]

end Loader

/-! ### The header -/

namespace Header

def CType.tag? : CType → Option String
  | .base _ (.struct name) => some name
  | _ => none

mutual

def CType.elements : CType → List String
  | .base _ _ => []
  | .pointer _ target => target.elements
  | .array element _ => element.tag?.toList ++ element.elements
  | .function params result => elementsAll params ++ result.elements

def CType.elementsAll : List CType → List String
  | [] => []
  | t :: ts => t.elements ++ elementsAll ts

end

theorem CType.elementsAll_eq_flatMap (ts : List CType) : elementsAll ts = ts.flatMap elements := by
  induction ts with
  | nil => rfl
  | cons t ts ih => rw [elementsAll, ih, List.flatMap_cons]

def CType.held : CType → List String
  | .base _ (.struct name) => [name]
  | .array element _ => element.held
  | _ => []

def CDecl.needs : CDecl → List String
  | .forward _ => []
  | .record _ members => members.flatMap fun m => m.type.held ++ m.type.elements
  | .synonym _ type => type.elements
  | .struct _ _ members => members.flatMap fun m => m.type.held ++ m.type.elements
  | .prototype _ _ params result => (params.flatMap fun p => p.type.elements) ++ result.elements

def CDecl.completes : CDecl → Option String
  | .struct _ name _ => some name
  | _ => none

/-- Every struct that is held by value or is an element of an array is defined before. -/
def StructsComplete (header : List CDecl) : Prop :=
  EachAfter (fun before d => ∀ name ∈ d.needs, ∃ b ∈ before, b.completes = some name) header

theorem tag?_denote {tag : String} {isConst : Bool} {t : Ty} {name : String} :
    (denote tag isConst t).tag? = some name ↔ t = .named name := by
  cases t <;> simp [denote, CType.tag?]

theorem mem_held_denote {tag : String} {isConst : Bool} {t : Ty} {name : String} :
    name ∈ (denote tag isConst t).held ↔ t.byValueName = some name := by
  fun_induction Ty.byValueName t generalizing isConst with
  | case1 s => simp [denote, CType.held, eq_comm]
  | case2 element len ih => rw [denote, CType.held, ih]
  | case3 t noName noArray => cases t <;> simp_all [denote, CType.held]

theorem elements_denote_const (tag : String) (first second : Bool) (t : Ty) :
    (denote tag first t).elements = (denote tag second t).elements := by
  induction t using Ty.size_induction with
  | step t ih =>
    cases t with
    | array element len =>
      have same := ih element (Ty.size_lt_of_mem_children List.mem_cons_self)
      have tags : (denote tag first element).tag? = (denote tag second element).tag? :=
        Option.ext fun name => tag?_denote.trans tag?_denote.symm
      rw [denote, denote, CType.elements, CType.elements, same, tags]
    | _ => simp [denote, CType.elements]

theorem hasArrayOf_of_mem_elements {tag : String} {isConst : Bool} {t : Ty} {name : String}
    (element : name ∈ (denote tag isConst t).elements) : t.HasArrayOf name := by
  induction t using Ty.size_induction generalizing isConst with
  | step t ih =>
    rw [Ty.hasArrayOf_iff]
    cases t with
    | pointer m pointee =>
      rw [denote, CType.elements] at element
      exact .inr ⟨pointee, List.mem_cons_self,
        ih pointee (Ty.size_lt_of_mem_children List.mem_cons_self) element⟩
    | array inner len =>
      rw [denote, CType.elements, List.mem_append, Option.mem_toList] at element
      rcases element with own | below
      · exact .inl ⟨len, by rw [tag?_denote.mp own]⟩
      · exact .inr ⟨inner, List.mem_cons_self,
          ih inner (Ty.size_lt_of_mem_children List.mem_cons_self) below⟩
    | _ => simp [denote, CType.elements] at element

theorem mem_elements_denoteResult {tag : String} {r : Option Ty} {name : String} :
    name ∈ (denoteResult tag r).elements ↔
      ∃ t ∈ r.toList, name ∈ (denote tag false t).elements := by
  cases r <;> simp [denoteResult, CType.elements]

theorem mem_elements_callback {tag : String} {args : List Ty} {r : Option Ty} {name : String} :
    name ∈ (CType.callback (args.map (denote tag false)) (denoteResult tag r)).elements ↔
      ∃ t ∈ args ++ r.toList, name ∈ (denote tag false t).elements := by
  rw [CType.callback, CType.elements, CType.elements, List.mem_append,
    CType.elementsAll_eq_flatMap, mem_elements_denoteResult]
  constructor
  · rintro (argument | ⟨t, result, inside⟩)
    · obtain ⟨c, listed, inside⟩ := List.mem_flatMap.mp argument
      obtain ⟨t, member, rfl⟩ := List.mem_map.mp listed
      exact ⟨t, List.mem_append_left _ member, inside⟩
    · exact ⟨t, List.mem_append_right _ result, inside⟩
  · rintro ⟨t, member, inside⟩
    rcases List.mem_append.mp member with argument | result
    · exact .inl (List.mem_flatMap.mpr ⟨_, List.mem_map.mpr ⟨t, argument, rfl⟩, inside⟩)
    · exact .inr ⟨t, result, inside⟩

theorem mem_needs_typedefOf {tag : String} {t : Ty} (carrier : isCarrier t = true) {name : String} :
    name ∈ (typedefOf tag t).needs ↔
      ∃ u ∈ t.parts, name ∈ (denote tag false u).elements := by
  unfold isCarrier at carrier
  split at carrier
  · rename_i m element
    simp [typedefOf, CDecl.needs, CType.held, CType.elements, Ty.parts, Ty.children,
      elements_denote_const tag (!m.isMutable) false]
  · rename_i m pointee
    simp [typedefOf, CDecl.needs, CType.held, CType.elements, CType.elementsAll, Ty.parts, deleter,
      CType.callback]
  · rename_i m element
    simp [typedefOf, CDecl.needs, CType.held, CType.elements, CType.elementsAll, Ty.parts, deleter,
      CType.callback, denote]
  · exact mem_elements_callback
  · rename_i args returns
    have caller : name ∈ (CType.callback (args.map (denote tag false))
        (denoteResult tag returns)).elements ↔ _ := mem_elements_callback
    simpa [typedefOf, CDecl.needs, CType.held, CType.elements, CType.elementsAll, deleter,
      CType.callback, CType.anything, Ty.parts, Ty.children] using caller
  · simp at carrier

theorem spelled_of_hasArrayOf (tag : String) {t : Ty} (owns : t.OwnsReferences) {name : String}
    (array : t.HasArrayOf name) :
    name ∈ (denote tag false t).elements ∨
      ∃ v, isCarrier v = true ∧ v.Part t ∧ name ∈ (typedefOf tag v).needs := by
  induction t using Ty.size_induction with
  | step t ih =>
    rcases Ty.hasArrayOf_iff_parts.mp array with ⟨n, rfl⟩ | ⟨u, part, below⟩
    · exact .inl (by simp [denote, CType.elements, CType.tag?])
    · rcases ih u (Ty.size_lt_of_mem_parts part) (owns.part (.of_mem part)) below with
        spelled | ⟨v, carrier, within, needed⟩
      · by_cases carrier : isCarrier t = true
        · exact .inr ⟨t, carrier, .refl, (mem_needs_typedefOf carrier).mpr ⟨u, part, spelled⟩⟩
        · -- Only pointers and arrays are spelled with what they are made of.
          cases t with
          | pointer m pointee =>
            obtain rfl := List.mem_singleton.mp part
            rw [elements_denote_const tag false (!m.isMutable)] at spelled
            exact .inl spelled
          | array element len =>
            obtain rfl := List.mem_singleton.mp part
            exact .inl (List.mem_append_right _ spelled)
          | owned inner => exact absurd (isCarrier_owned (owns inner .refl)) carrier
          | primitive p => simp [Ty.parts, Ty.children] at part
          | string m => simp [Ty.parts, Ty.children] at part
          | named s => simp [Ty.parts, Ty.children] at part
          | _ => exact absurd rfl carrier
      · exact .inr ⟨v, carrier, .head part within, needed⟩

section Assembly

variable {options : Options} {items : Items} {ts : List Ty}

/-- No type with a typedef has an array of structs inside it. -/
def TypedefsWithoutArrays (items : Items) : Prop :=
  ∀ u, NeedsTypedef items u → ∀ name, ¬ u.HasArrayOf name

theorem completes_typedefOf (tag : String) (t : Ty) : (typedefOf tag t).completes = none := by
  unfold typedefOf
  split <;> rfl

theorem completes_front {d : CDecl}
    (member : d ∈ announcements items ++ ts.map (typedefOf options.resolvedHeaderPrefix)) :
    d.completes = none := by
  rcases List.mem_append.mp member with announced | typedef
  · rcases List.mem_append.mp announced with abstract | struct
    · obtain ⟨s, -, rfl⟩ := List.mem_map.mp abstract
      rfl
    · obtain ⟨s, -, rfl⟩ := List.mem_map.mp struct
      rfl
  · obtain ⟨t, -, rfl⟩ := List.mem_map.mp typedef
    exact completes_typedefOf _ t

theorem needs_announcements {d : CDecl} (member : d ∈ announcements items) : d.needs = [] := by
  rcases List.mem_append.mp member with abstract | struct
  · obtain ⟨s, -, rfl⟩ := List.mem_map.mp abstract
    rfl
  · obtain ⟨s, -, rfl⟩ := List.mem_map.mp struct
    rfl

theorem mem_needs_struct {s : Struct} {name : String} :
    name ∈ ((Declaration.struct s).inC options).needs ↔ ∃ f ∈ s.fields,
      f.ty.byValueName = some name ∨
        name ∈ (denote options.resolvedHeaderPrefix false f.ty).elements := by
  simp [Declaration.inC, CDecl.needs, fieldMember, mem_held_denote]

theorem mem_needs_function {f : Function} {name : String}
    (needed : name ∈ ((Declaration.function f).inC options).needs) :
    ∃ t ∈ f.params.map Param.ty ++ f.returns.toList, t.HasArrayOf name := by
  rcases List.mem_append.mp needed with param | result
  · obtain ⟨m, line, inside⟩ := List.mem_flatMap.mp param
    obtain ⟨p, member, rfl⟩ := List.mem_map.mp line
    exact ⟨p.ty, List.mem_append_left _ (List.mem_map.mpr ⟨p, member, rfl⟩),
      hasArrayOf_of_mem_elements inside⟩
  · obtain ⟨t, member, inside⟩ := mem_elements_denoteResult.mp result
    exact ⟨t, List.mem_append_right _ member, hasArrayOf_of_mem_elements inside⟩

theorem front_complete_iff :
    StructsComplete (announcements items ++ ts.map (typedefOf options.resolvedHeaderPrefix)) ↔
      ∀ t ∈ ts, (typedefOf options.resolvedHeaderPrefix t).needs = [] := by
  have nothing : ∀ before ⊆
      announcements items ++ ts.map (typedefOf options.resolvedHeaderPrefix),
      ∀ d ∈ announcements items ++ ts.map (typedefOf options.resolvedHeaderPrefix),
      ((∀ name ∈ d.needs, ∃ b ∈ before, b.completes = some name) ↔ d.needs = []) := by
    intro before within d _
    constructor
    · intro complete
      refine List.eq_nil_iff_forall_not_mem.mpr fun name needed => ?_
      obtain ⟨b, member, defines⟩ := complete name needed
      simp [completes_front (within member)] at defines
    · intro empty
      simp [empty]
  rw [StructsComplete, EachAfter.congr nothing, EachAfter.forall_iff]
  constructor
  · intro all t member
    exact all _ (List.mem_append_right _ (List.mem_map.mpr ⟨t, member, rfl⟩))
  · intro all d member
    rcases List.mem_append.mp member with announced | typedef
    · exact needs_announcements announced
    · obtain ⟨t, stored, rfl⟩ := List.mem_map.mp typedef
      exact all t stored

theorem structs_complete_iff {front : List CDecl} (none : ∀ d ∈ front, d.completes = none) :
    EachAfter (fun before d => ∀ name ∈ d.needs, ∃ b ∈ front ++ before, b.completes = some name)
        (items.structs.map fun s => (Declaration.struct s).inC options) ↔
      EachAfter (fun before s => ∀ name ∈ ((Declaration.struct s).inC options).needs,
        name ∈ before.map Struct.name) items.structs := by
  rw [EachAfter.map_iff]
  refine EachAfter.congr fun before _ s _ => forall₂_congr fun name _ => ?_
  constructor
  · rintro ⟨b, member, defines⟩
    rcases List.mem_append.mp member with early | earlier
    · simp [none b early] at defines
    · obtain ⟨t, stored, rfl⟩ := List.mem_map.mp earlier
      obtain rfl : t.name = name := by simpa [Declaration.inC, CDecl.completes] using defines
      exact List.mem_map.mpr ⟨t, stored, rfl⟩
  · intro known
    obtain ⟨t, stored, rfl⟩ := List.mem_map.mp known
    exact ⟨_, List.mem_append_right _ (List.mem_map.mpr ⟨t, stored, rfl⟩), rfl⟩

variable (accepted : Accepted items)
  (collected : Collected options.resolvedHeaderPrefix ((declaredTypes items).flatMap carriers) ts)

include accepted collected in
theorem typedefs_need_nothing_iff :
    (∀ t ∈ ts, (typedefOf options.resolvedHeaderPrefix t).needs = []) ↔
      TypedefsWithoutArrays items := by
  constructor
  · intro nothing u needed name array
    -- The innermost type around the array that has a typedef is spelled with the array.
    obtain ⟨v, carrier, part, relied⟩ : ∃ v, isCarrier v = true ∧ v.Part u ∧
        name ∈ (typedefOf options.resolvedHeaderPrefix v).needs := by
      rcases spelled_of_hasArrayOf options.resolvedHeaderPrefix (needed.owns accepted) array with
        spelled | found
      · rw [denote_carrier _ _ needed.1] at spelled
        simp [CType.elements] at spelled
      · exact found
    obtain ⟨-, top, declared, within⟩ := needed
    have below : NeedsTypedef items v := ⟨carrier, top, declared, within.trans part⟩
    have covered := collected.covers v (mem_flatMap_carriers_iff.mpr below)
    obtain ⟨t, stored, same⟩ := List.mem_map.mp
      (collected.typedefOf_mem accepted below (List.Subset.refl ts) covered)
    rw [← same, nothing t stored] at relied
    simp at relied
  · intro none t member
    refine List.eq_nil_iff_forall_not_mem.mpr fun name relied => ?_
    have needed := collected.needs member
    obtain ⟨u, part, spelled⟩ := (mem_needs_typedefOf needed.1).mp relied
    exact none t needed name
      (Ty.hasArrayOf_iff_parts.mpr (.inr ⟨u, part, hasArrayOf_of_mem_elements spelled⟩))

include accepted collected in
theorem structsComplete_iff
    (contained : EachAfter (fun before s => ∀ f ∈ s.fields, ∀ name,
      f.ty.byValueName = some name → name ∈ before.map Struct.name) items.structs)
    (sized : ∀ t ∈ declaredTypes items, ∀ name, t.HasArrayOf name → name ∈ items.structNames) :
    StructsComplete (announcements items ++ ts.map (typedefOf options.resolvedHeaderPrefix) ++
        uses options items) ↔
      TypedefsWithoutArrays items ∧ FieldArraysBefore items := by
  have front : StructsComplete
      (announcements items ++ ts.map (typedefOf options.resolvedHeaderPrefix)) ↔ _ :=
    front_complete_iff.trans (typedefs_need_nothing_iff accepted collected)
  have undefined : ∀ d ∈ announcements items ++
      ts.map (typedefOf options.resolvedHeaderPrefix), d.completes = none :=
        fun d => completes_front
  generalize announcements items ++ ts.map (typedefOf options.resolvedHeaderPrefix) = opening
    at front undefined ⊢
  rw [StructsComplete, uses, EachAfter.append_iff, EachAfter.append_iff,
    structs_complete_iff undefined]
  constructor
  · rintro ⟨first, structs, -⟩
    have noArrays := front.mp first
    refine ⟨noArrays, structs.mono fun before _ s member complete f field name array => ?_⟩
    have declared := Items.field_mem_declaredTypes member field
    rcases spelled_of_hasArrayOf options.resolvedHeaderPrefix (accepted.owns _ declared) array with
      spelled | ⟨v, carrier, part, relied⟩
    · exact complete name (mem_needs_struct.mpr ⟨f, field, .inr spelled⟩)
    · have needed : NeedsTypedef items v := ⟨carrier, f.ty, declared, part⟩
      obtain ⟨u, inPart, below⟩ := (mem_needs_typedefOf carrier).mp relied
      have inside : v.HasArrayOf name :=
        Ty.hasArrayOf_iff_parts.mpr (.inr ⟨u, inPart, hasArrayOf_of_mem_elements below⟩)
      exact absurd inside (noArrays v needed name)
  · rintro ⟨noArrays, before⟩
    refine ⟨front.mpr noArrays, ?_, .of_forall fun earlier d member name needed => ?_⟩
    · intro earlier s later split name needed
      obtain ⟨f, field, held | spelled⟩ := mem_needs_struct.mp needed
      · exact contained earlier s later split f field name held
      · exact before earlier s later split f field name (hasArrayOf_of_mem_elements spelled)
    · obtain ⟨f, function, rfl⟩ := List.mem_map.mp member
      obtain ⟨t, used, array⟩ := mem_needs_function needed
      have declared := Items.signature_mem_declaredTypes function used
      obtain ⟨s, struct, rfl⟩ := List.mem_map.mp (sized t declared name array)
      exact ⟨_, List.mem_append_right _
        (List.mem_append_left _ (List.mem_map.mpr ⟨s, struct, rfl⟩)), rfl⟩

end Assembly

end Header

/-! ### Generated files -/

/-- When both files are generated, the header defines every struct in time exactly if no type with a
typedef has an array of structs inside it and fields only have arrays of earlier structs, and the
loader module makes every array in time exactly if fields only have arrays of earlier structs. -/
theorem arrays_in_time_iff {env : Environment} {options : Options} {items : Items}
    {cache : ManifestCache} {header loader : String}
    (declared : (generateMain env options items .c cache).2.result = .ok header)
    (loaded : (generateMain env options items .python cache).2.result = .ok loader) :
    ∃ out ts, items.validated.result = .ok out ∧
      header = Header.fileText options
        ((Header.declarations out ts).map (Header.Declaration.inC options)) ∧
      loader = Loader.moduleText options (Loader.statements options out) ∧
      (Header.StructsComplete ((Header.declarations out ts).map (Header.Declaration.inC options)) ↔
        Header.TypedefsWithoutArrays out ∧ FieldArraysBefore out) ∧
      (Loader.ArraysComplete (Loader.statements options out) ↔ FieldArraysBefore out) := by
  obtain ⟨out, ts, valid, found, text⟩ := generated_header declared
  obtain ⟨other, validToo, textToo⟩ := generated_loader loaded
  obtain rfl : out = other := Except.ok.inj (valid.symm.trans validToo)
  have arranged : items.arranged = .ok out := valid
  have sound := Header.accepted_of_arranged arranged
  refine ⟨out, ts, valid, text, textToo, ?_, ?_⟩
  · rw [Header.declarations_inC]
    refine Header.structsComplete_iff sound (Header.typedefs_collected found)
      (Items.contained_before arranged) fun t used name array => ?_
    have known := Items.mem_structNames_of_hasArrayOf arranged
      (Items.mem_declaredTypes_of_arranged arranged used) array
    exact ((Items.structs_perm_of_arranged arranged).map Struct.name).mem_iff.mpr known
  · exact Loader.arraysComplete_iff fun s struct f field =>
      sound.owns f.ty (Items.field_mem_declaredTypes struct field)

def forwardArray : Items where
  structs := [
    { name := "A", fields := [{ name := "p", ty := .pointer .mutable (.array (.named "B") 4) }] },
    { name := "B", fields := [{ name := "x", ty := .primitive .u32 }] }]

theorem forwardArray_not_in_time :
    (generateMain bareEnvironment {} forwardArray .c []).2.result =
        .ok (Header.interfaceText {} (Header.declarations forwardArray [])) ∧
      (generateMain bareEnvironment {} forwardArray .python []).2.result =
        .ok (Loader.file {} forwardArray) ∧
      ¬ Header.StructsComplete
        ((Header.declarations forwardArray []).map (Header.Declaration.inC {})) ∧
      ¬ Loader.ArraysComplete (Loader.statements {} forwardArray) := by
  have valid : forwardArray.validated.result = .ok forwardArray := rfl
  refine ⟨generateMain_c_ok rfl valid rfl, generateMain_python_ok rfl valid rfl, ?_, ?_⟩
  · intro complete
    obtain ⟨b, member, defines⟩ := complete [.forward "A", .forward "B"] _ _ rfl "B" (by decide)
    simp at member
    rcases member with rfl | rfl <;> simp [Header.CDecl.completes] at defines
  · intro complete
    obtain ⟨b, member, assigns⟩ := complete
      (Loader.supportStatements ++
        forwardArray.abstractStructs.map (fun s => .opened s.name (Loader.abstractDocs s)) ++
        forwardArray.structs.map fun s => .opened s.name (Loader.structDocs s)) _ _ rfl "B"
      (by decide)
    simp [(Loader.front_statements member).2] at assigns

def backwardArray : Items where
  structs := [
    { name := "point", fields := [{ name := "x", ty := .primitive .f32 }] },
    { name := "grid"
      fields := [
        { name := "cells", ty := .array (.named "point") 4 },
        { name := "cursor", ty := .pointer .mutable (.array (.named "point") 2) }] }]

theorem backwardArray_in_time :
    (generateMain bareEnvironment {} backwardArray .c []).2.result =
        .ok (Header.interfaceText {} (Header.declarations backwardArray [])) ∧
      (generateMain bareEnvironment {} backwardArray .python []).2.result =
        .ok (Loader.file {} backwardArray) ∧
      ∃ ts, Header.interfaceText {} (Header.declarations backwardArray []) = Header.fileText {}
          ((Header.declarations backwardArray ts).map (Header.Declaration.inC {})) ∧
        Header.StructsComplete
          ((Header.declarations backwardArray ts).map (Header.Declaration.inC {})) ∧
        Loader.ArraysComplete (Loader.statements {} backwardArray) := by
  have valid : backwardArray.validated.result = .ok backwardArray := rfl
  have declared : (generateMain bareEnvironment {} backwardArray .c []).2.result =
      .ok (Header.interfaceText {} (Header.declarations backwardArray [])) :=
    generateMain_c_ok rfl valid rfl
  have loaded : (generateMain bareEnvironment {} backwardArray .python []).2.result =
      .ok (Loader.file {} backwardArray) := generateMain_python_ok rfl valid rfl
  have carriers : (Header.declaredTypes backwardArray).flatMap Header.carriers = [] := rfl
  have noTypedefs : Header.TypedefsWithoutArrays backwardArray := by
    intro u needed
    have listed := Header.mem_flatMap_carriers_iff.mpr needed
    rw [carriers] at listed
    simp at listed
  have elements : ∀ t ∈ Header.declaredTypes backwardArray, ∀ name, t.HasArrayOf name →
      name ∈ (Loader.denote t).elements := by
    have arranged : backwardArray.arranged = .ok backwardArray := valid
    intro t used name
    exact (Loader.mem_elements_denote ((Header.accepted_of_arranged arranged).owns t used)).mpr
  have before : FieldArraysBefore backwardArray := by
    refine (EachAfter.nil.concat ?_).concat ?_
    · rintro f field name array
      obtain rfl := List.mem_singleton.mp field
      exact elements _ (by decide) name array
    · rintro f field name array
      rcases List.mem_cons.mp field with rfl | last
      · exact elements _ (by decide) name array
      · obtain rfl := List.mem_singleton.mp last
        exact elements _ (by decide) name array
  obtain ⟨out, ts, validToo, text, -, header, loader⟩ := arrays_in_time_iff declared loaded
  obtain rfl : backwardArray = out := Except.ok.inj (valid.symm.trans validToo)
  exact ⟨declared, loaded, ts, text, header.mpr ⟨noTypedefs, before⟩, loader.mpr before⟩

end Bindery
