import Bindery.Proofs.Header.Collisions

set_option autoImplicit false
set_option relaxedAutoImplicit false

/-!
The form that a type has in C. Whether what is owned can be written makes no difference there, so
the form takes it to be writable, and a type in which that is so already is its own form. Main
statement: the form changes neither the name nor any declaration of a type that owns references
only, and types of one form have one definition, so that a header which defines each form once
leaves out no definition.
-/

namespace Bindery

namespace Ty

def isWritable : Ty → Bool
  | .pointer m _ => m.isMutable
  | .slice m _ => m.isMutable
  | _ => false

/-- Everything that is owned in a type can be written. -/
def OwnsWritable (t : Ty) : Prop := ∀ inner, Inside (.owned inner) t → inner.isWritable = true

variable {t : Ty}

theorem forall_owned_iff {p : Ty → Prop} :
    (∀ inner, Inside (.owned inner) t → p inner) ↔
      (∀ inner, t = .owned inner → p inner) ∧
        ∀ u ∈ t.children, ∀ inner, Inside (.owned inner) u → p inner := by
  constructor
  · intro all
    refine ⟨?_, fun u child inner inside => all inner (inside_of_child child inside)⟩
    rintro inner rfl
    exact all inner .refl
  · rintro ⟨own, below⟩ inner inside
    rcases inside.cases_head with same | ⟨u, child, within⟩
    · exact own inner same
    · exact below u child inner within

theorem ownsReferences_iff : t.OwnsReferences ↔
    (∀ inner, t = .owned inner → inner.isReference = true) ∧ ∀ u ∈ t.children, u.OwnsReferences :=
  forall_owned_iff

theorem ownsWritable_iff : t.OwnsWritable ↔
    (∀ inner, t = .owned inner → inner.isWritable = true) ∧ ∀ u ∈ t.children, u.OwnsWritable :=
  forall_owned_iff

theorem children_inC (free : ∀ inner, t ≠ .owned inner) : t.inC.children = t.children.map inC := by
  cases t with
  | owned inner => exact absurd rfl (free inner)
  | function args returns | closure args returns =>
    rw [inC, Header.inCAll_eq_map, Header.inCOption_eq_map]
    cases returns <;> simp [children]
  | _ => simp [inC, children]

theorem inC_not_owned (free : ∀ inner, t ≠ .owned inner) : ∀ inner, t.inC ≠ .owned inner := by
  cases t with
  | owned inner => exact absurd rfl (free inner)
  | _ => simp [inC]

theorem ownsWritable_inC (t : Ty) : t.inC.OwnsWritable := by
  induction t using size_induction with
  | step t ih =>
    by_cases owned : ∃ inner, t = .owned inner
    · obtain ⟨inner, rfl⟩ := owned
      cases inner with
      | pointer m pointee | slice m pointee =>
        have target := ih pointee (size_lt_of_owned List.mem_cons_self)
        rw [inC]
        refine ownsWritable_iff.mpr ⟨by rintro _ ⟨⟩; rfl, fun u child => ?_⟩
        obtain rfl := List.mem_singleton.mp child
        exact ownsWritable_iff.mpr ⟨by simp, by simpa [children] using target⟩
      | _ =>
        rw [Header.inC_owned rfl]
        exact ih _ (size_lt_of_mem_children List.mem_cons_self)
    · have free : ∀ inner, t ≠ .owned inner := fun inner same => owned ⟨inner, same⟩
      rw [ownsWritable_iff, children_inC free]
      refine ⟨fun inner same => absurd same (inC_not_owned free inner), fun u child => ?_⟩
      obtain ⟨v, member, rfl⟩ := List.mem_map.mp child
      exact ih v (size_lt_of_mem_children member)

theorem inC_eq_self (owns : t.OwnsWritable) : t.inC = t := by
  induction t using size_induction with
  | step t ih =>
    have inside : ∀ u ∈ t.children, u.inC = u := fun u child =>
      ih u (size_lt_of_mem_children child) ((ownsWritable_iff.mp owns).2 u child)
    cases t with
    | primitive p => rfl
    | string m => rfl
    | named name => rfl
    | pointer m pointee => rw [inC, inside pointee List.mem_cons_self]
    | slice m element => rw [inC, inside element List.mem_cons_self]
    | array element len => rw [inC, inside element List.mem_cons_self]
    | function args returns | closure args returns =>
      have arguments : args.map inC = args := by
        refine (List.map_congr_left fun u member => ?_).trans args.map_id
        exact inside u (List.mem_append_left _ member)
      have result : returns.map inC = returns := by
        cases returns with
        | none => rfl
        | some u => exact congrArg some (inside u (List.mem_append_right _ List.mem_cons_self))
      rw [inC, Header.inCAll_eq_map, Header.inCOption_eq_map, arguments, result]
    | owned inner =>
      have reference := inside inner List.mem_cons_self
      have writable := (ownsWritable_iff.mp owns).1 inner rfl
      cases inner with
      | pointer m pointee | slice m pointee =>
        cases m with
        | const => simp [isWritable, Mutability.isMutable] at writable
        | mutable =>
          rw [inC] at reference
          rw [inC, reference]
      | _ => simp [isWritable] at writable

theorem inC_inC (t : Ty) : t.inC.inC = t.inC := inC_eq_self (ownsWritable_inC t)

theorem parts_inC (owns : t.OwnsReferences) : t.inC.parts = t.parts.map inC := by
  by_cases owned : ∃ inner, t = .owned inner
  · obtain ⟨inner, rfl⟩ := owned
    have reference := owns inner .refl
    cases inner with
    | pointer m pointee => simp [inC, parts]
    | slice m element => simp [inC, parts]
    | _ => simp [isReference] at reference
  · have free : ∀ inner, t ≠ .owned inner := fun inner same => owned ⟨inner, same⟩
    rw [parts_of_notOwned free, parts_of_notOwned (inC_not_owned free), children_inC free]

end Ty

namespace Header

variable {t u : Ty}

theorem declare_inC (tag : String) (owns : t.OwnsReferences) (declarator : String) :
    declare tag t.inC declarator = declare tag t declarator := by
  rw [declare_eq, declare_eq, denote_inC tag false owns]

theorem definition_inC (tag : String) (carrier : isCarrier t = true) (owns : t.OwnsReferences) :
    definition tag t.inC = definition tag t := by
  -- Definitions are compared as syntax of C, which is spelled with a blank line behind it.
  have spelled : definition tag t.inC ++ "\n\n" = definition tag t ++ "\n\n" := by
    rw [definition_eq {} tag carrier, definition_eq {} tag (isCarrier_inC carrier),
      typedefOf_inC tag carrier owns]
  simpa using spelled

theorem isCarrier_inC_eq (owns : t.OwnsReferences) : isCarrier t.inC = isCarrier t := by
  cases t with
  | owned inner =>
    have carrier := isCarrier_owned (owns inner .refl)
    rw [carrier, isCarrier_inC carrier]
  | _ => simp [Ty.inC, isCarrier]

theorem carriers_inC (owns : t.OwnsReferences) : carriers t.inC = (carriers t).map Ty.inC := by
  induction t using Ty.size_induction with
  | step t ih =>
    have below : ∀ v ∈ t.parts, carriers v.inC = (carriers v).map Ty.inC := fun v part =>
      ih v (Ty.size_lt_of_mem_parts part) (owns.part (.of_mem part))
    have own : (if isCarrier t.inC then [t.inC] else []) =
        (if isCarrier t then [t] else []).map Ty.inC := by
      rw [isCarrier_inC_eq owns]
      split <;> rfl
    rw [carriers_eq, carriers_eq t, own, Ty.parts_inC owns, List.flatMap_map,
      List.flatMap_congr below, List.map_append, List.map_flatMap]

theorem definitions_inC (tag : String) (owns : t.OwnsReferences) :
    (carriers t.inC).map (definition tag) = (carriers t).map (definition tag) := by
  rw [carriers_inC owns, List.map_map]
  refine List.map_congr_left fun v listed => ?_
  obtain ⟨carrier, part⟩ := mem_carriers_iff.mp listed
  exact definition_inC tag carrier (owns.part part)

theorem definition_eq_of_inC (tag : String) (first : t.OwnsReferences) (second : u.OwnsReferences)
    (lacksFirst : t.lacksNotation = true) (lacksSecond : u.lacksNotation = true)
    (same : t.inC = u.inC) : definition tag t = definition tag u := by
  have carried {v : Ty} (owns : v.OwnsReferences) (lacks : v.lacksNotation = true) :
      definition tag v = definition tag v.inC :=
    (definition_inC tag (Ty.isCarrier_of_lacksNotation owns .refl lacks) owns).symm
  rw [carried first lacksFirst, same, ← carried second lacksSecond]

/-- Whatever is passed over for the form of an earlier type has the definition of that type. -/
theorem definition_mem_of_typedefs {tag : String} {items : Items} {ts : List Ty}
    (owns : ∀ v ∈ declaredTypes items, v.OwnsReferences) (found : typedefs tag items = .ok ts)
    (listed : t ∈ (declaredTypes items).flatMap carriers) :
    definition tag t ∈ ts.map (definition tag) := by
  have proper : ∀ v ∈ (declaredTypes items).flatMap carriers,
      v.OwnsReferences ∧ v.lacksNotation = true := by
    intro v member
    obtain ⟨carrier, top, declared, part⟩ := mem_flatMap_carriers_iff.mp member
    exact ⟨(owns top declared).part part, Ty.lacksNotation_of_isCarrier carrier⟩
  have collected := typedefs_collected found
  obtain ⟨u, defined, same⟩ := collected.covers t listed
  obtain ⟨first, lacksFirst⟩ := proper u (collected.known u defined)
  obtain ⟨second, lacksSecond⟩ := proper t listed
  rw [← definition_eq_of_inC tag first second lacksFirst lacksSecond same]
  exact List.mem_map_of_mem defined

/-- The form in C of a type that owns references only is its own form, in which everything owned can
be written, and it has the name and the declarations of the type. Two types of one form need the
same definitions and have the same one themselves, so the definitions of a header are those of all
types that need one. -/
theorem inC_faithful (tag : String) :
    (∀ t : Ty, t.OwnsReferences → t.inC.inC = t.inC ∧ t.inC.OwnsWritable ∧
      mangle t.inC = mangle t ∧
      ∀ declarator, declare tag t.inC declarator = declare tag t declarator) ∧
    (∀ t u : Ty, t.OwnsReferences → u.OwnsReferences → t.inC = u.inC →
      (carriers t).map (definition tag) = (carriers u).map (definition tag) ∧
      (t.lacksNotation = true → u.lacksNotation = true → definition tag t = definition tag u)) ∧
    ∀ items ts, (∀ t ∈ declaredTypes items, t.OwnsReferences) → typedefs tag items = .ok ts →
      ∀ t ∈ (declaredTypes items).flatMap carriers, definition tag t ∈ ts.map (definition tag) := by
  refine ⟨fun t owns => ?_, fun t u first second same => ⟨?_, fun lacksFirst lacksSecond => ?_⟩, ?_⟩
  · exact ⟨t.inC_inC, t.ownsWritable_inC, mangle_inC t, declare_inC tag owns⟩
  · rw [← definitions_inC tag first, same, definitions_inC tag second]
  · exact definition_eq_of_inC tag first second lacksFirst lacksSecond same
  · intro items ts owns found t listed
    exact definition_mem_of_typedefs owns found listed

def storeVisitor (m : Mutability) : Ty :=
  .closure [.owned (.slice m (.owned (.pointer m (.named "Store"))))] none

def storeVisits : Items where
  abstractStructs := [{ name := "Store" }]
  functions := [
    { name := "each", params := [{ name := "visit", ty := storeVisitor .const }] },
    { name := "update", params := [{ name := "visit", ty := storeVisitor .mutable }] }]

/-- The types that are defined for both functions: those of the first. -/
def storeTypedefs : List Ty := carriers (storeVisitor .const)

theorem ownsReferences_storeVisitor (m : Mutability) : (storeVisitor m).OwnsReferences := by
  have around {t u : Ty} (child : t.children = [u])
      (owned : ∀ inner, t = .owned inner → inner.isReference = true) (owns : u.OwnsReferences) :
      t.OwnsReferences := by
    refine Ty.ownsReferences_iff.mpr ⟨owned, ?_⟩
    simpa [child] using owns
  have store : (Ty.named "Store").OwnsReferences :=
    Ty.ownsReferences_iff.mpr ⟨by simp, by simp [Ty.children]⟩
  have pointer : (Ty.pointer m (.named "Store")).OwnsReferences := around rfl (by simp) store
  have ownedPointer := around (t := .owned _) rfl (by rintro _ ⟨⟩; rfl) pointer
  have slice := around (t := .slice m _) rfl (by simp) ownedPointer
  have ownedSlice := around (t := .owned _) rfl (by rintro _ ⟨⟩; rfl) slice
  exact around rfl (by simp [storeVisitor]) ownedSlice

theorem storeVisitor_form_shared :
    (∀ m, (storeVisitor m).OwnsReferences) ∧
    (storeVisitor .const).inC = (storeVisitor .mutable).inC ∧
    (storeVisitor .const).inC.inC = (storeVisitor .const).inC ∧
    declare "kv" (storeVisitor .const).inC "visit" = declare "kv" (storeVisitor .const) "visit" ∧
    definition "kv" (storeVisitor .const) = definition "kv" (storeVisitor .mutable) ∧
    typedefs "kv" storeVisits = .ok storeTypedefs ∧
    storeVisitor .mutable ∉ storeTypedefs ∧
    definition "kv" (storeVisitor .mutable) ∈ storeTypedefs.map (definition "kv") := by
  have owns := ownsReferences_storeVisitor
  have declared : ∀ t ∈ declaredTypes storeVisits, t.OwnsReferences := by
    simp [declaredTypes, storeVisits, owns]
  have same : (storeVisitor .const).inC = (storeVisitor .mutable).inC := by decide
  have found : typedefs "kv" storeVisits = .ok storeTypedefs := by decide
  have faithful := inC_faithful "kv"
  obtain ⟨fixed, -, -, declares⟩ := faithful.1 _ (owns .const)
  refine ⟨owns, same, fixed, declares "visit", ?_, found, by decide, ?_⟩
  · exact (faithful.2.1 _ _ (owns .const) (owns .mutable) same).2 rfl rfl
  · exact faithful.2.2 _ _ declared found (storeVisitor .mutable) (by decide)

end Header

end Bindery
