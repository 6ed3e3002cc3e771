import Bindery.Proofs.Precede
import Bindery.Proofs.Validity.Faults

set_option autoImplicit false
set_option relaxedAutoImplicit false

/-!
What an accepted description is like. None of its spots has a fault, so names are declared once and
a type that is contained by value is a complete struct. Its structs come back in layout order, each
behind the structs that it contains.
-/

namespace Bindery

/-! ### Spots of a description -/

theorem mem_withEarlier {α : Type} (nameOf : α → String) {a : α} (earlier : List String)
    {as : List α} (member : a ∈ as) : ∃ before, (before, a) ∈ withEarlier nameOf earlier as := by
  induction as generalizing earlier with
  | nil => simp at member
  | cons first rest ih =>
    rcases List.mem_cons.mp member with rfl | later
    · exact ⟨earlier, List.mem_cons_self⟩
    · obtain ⟨before, found⟩ := ih (nameOf first :: earlier) later
      exact ⟨before, List.mem_cons_of_mem _ found⟩

theorem nodup_of_withEarlier {α : Type} (nameOf : α → String) (earlier : List String) (as : List α)
    (fresh : ∀ e ∈ withEarlier nameOf earlier as, nameOf e.2 ∉ e.1) :
    (as.map nameOf).Nodup ∧ ∀ a ∈ as, nameOf a ∉ earlier := by
  induction as generalizing earlier with
  | nil => simp
  | cons first rest ih =>
    have here : nameOf first ∉ earlier := fresh (earlier, first) List.mem_cons_self
    obtain ⟨distinct, unseen⟩ := ih (nameOf first :: earlier) fun e member =>
      fresh e (List.mem_cons_of_mem _ member)
    refine ⟨?_, ?_⟩
    · rw [List.map_cons, List.nodup_cons]
      refine ⟨?_, distinct⟩
      intro again
      obtain ⟨a, member, same⟩ := List.mem_map.mp again
      exact unseen a member (same ▸ List.mem_cons_self)
    · intro a member
      rcases List.mem_cons.mp member with rfl | later
      · exact here
      · exact fun old => unseen a later (List.mem_cons_of_mem _ old)

namespace Items

theorem fieldSpot_mem {items : Items} {s : Struct} {f : Field} {spot : Spot}
    (struct : s ∈ items.structs) (field : f ∈ s.fields)
    (inside : spot ∈ f.ty.spots (.field s.name f.name) []) : spot ∈ items.spots := by
  obtain ⟨before, entry⟩ := mem_withEarlier Field.name [] field
  have own : spot ∈ fieldSpots s :=
    List.mem_flatMap.mpr ⟨(before, f), entry, List.mem_cons_of_mem _ inside⟩
  exact List.mem_append_left _ (List.mem_append_right _ (List.mem_flatMap.mpr ⟨s, struct, own⟩))

theorem nameSpot_mem {items : Items} {spot : Spot} (member : spot ∈ items.nameSpots) :
    spot ∈ items.spots :=
  List.mem_append_left _ (List.mem_append_left _ member)

theorem not_faulty_of_arranged {items out : Items}
    (accepted : items.arranged = .ok out) {spot : Spot}
    (member : spot ∈ items.spots) (p : Problem) : ¬ items.Faulty spot p := by
  have clean := arranged_ok accepted
  rw [problems, List.append_eq_nil_iff, declarationProblems_eq] at clean
  intro fault
  have reported : p ∈ items.spots.flatMap (Spot.problems items) :=
    List.mem_flatMap.mpr ⟨spot, member, Spot.mem_problems_iff.mpr fault⟩
  rw [clean.1] at reported
  exact List.not_mem_nil reported

theorem nodup_names_of_arranged {items out : Items} (accepted : items.arranged = .ok out) :
    (items.structNames ++ items.abstractNames ++ items.functionNames).Nodup := by
  have fresh : ∀ e ∈ withEarlier id []
      (items.structNames ++ items.abstractNames ++ items.functionNames), id e.2 ∉ e.1 := by
    intro e member again
    have spot : Spot.declared .items e.1 e.2 ∈ items.nameSpots :=
      List.mem_map.mpr ⟨e, member, rfl⟩
    exact not_faulty_of_arranged accepted (nameSpot_mem spot) _ (.duplicateItem again)
  simpa using (nodup_of_withEarlier id [] _ fresh).1

theorem nodup_structNames_of_arranged {items out : Items} (accepted : items.arranged = .ok out) :
    items.structNames.Nodup :=
  (nodup_names_of_arranged accepted).of_append_left.of_append_left

theorem nodup_functionNames_of_arranged {items out : Items} (accepted : items.arranged = .ok out) :
    items.functionNames.Nodup :=
  (nodup_names_of_arranged accepted).of_append_right

end Items

/-- The name that a type contains by value stands at a spot of the type that is not behind a
pointer, if the type itself is not. -/
theorem Ty.byValueName_spot (site : Site) {t : Ty} {name : String}
    (contained : t.byValueName = some name) {above : List Ty} (held : ¬ BehindPointer above) :
    ∃ around, ¬ BehindPointer around ∧ .use site around (.named name) ∈ t.spots site above := by
  fun_induction byValueName t generalizing above with
  | case1 own =>
    obtain rfl : own = name := by simpa using contained
    refine ⟨above, held, ?_⟩
    rw [spots_eq]
    exact List.mem_cons_self
  | case2 element len ih =>
    have still : ¬ BehindPointer (.array element len :: above) := by
      simp [BehindPointer, isOwned]
    obtain ⟨around, free, found⟩ := ih contained still
    refine ⟨around, free, ?_⟩
    rw [spots_eq, children, List.flatMap_singleton]
    exact List.mem_cons_of_mem _ found
  | case3 => simp at contained

namespace Items

theorem mem_structNames_of_held {items out : Items} (accepted : items.arranged = .ok out)
    {site : Site} {around : List Ty} {name : String}
    (spot : .use site around (.named name) ∈ items.spots) (held : ¬ BehindPointer around) :
    name ∈ items.structNames := by
  have sound := not_faulty_of_arranged accepted spot
  -- Any other reading of the name is a fault.
  by_contra noStruct
  by_cases abstract : name ∈ items.abstractNames
  · exact sound _ (.unsized noStruct abstract held)
  by_cases function : name ∈ items.functionNames
  · exact sound _ (.notAType noStruct abstract function)
  · exact sound _ (.unknownType noStruct abstract function)

theorem mem_structNames_of_byValueName {items out : Items} (accepted : items.arranged = .ok out)
    {s : Struct} (struct : s ∈ items.structs) {f : Field} (field : f ∈ s.fields) {name : String}
    (contained : f.ty.byValueName = some name) : name ∈ items.structNames := by
  have outermost : ¬ BehindPointer [] := by simp [BehindPointer]
  obtain ⟨around, held, inside⟩ := f.ty.byValueName_spot (.field s.name f.name) contained outermost
  exact mem_structNames_of_held accepted (fieldSpot_mem struct field inside) held

theorem isFirst_of_mem_structNames {items : Items} {name : String}
    (declared : name ∈ items.structNames) : ∃ d, items.IsFirst name d := by
  obtain ⟨s, member, named⟩ := List.mem_map.mp declared
  have found : (items.structIndex? name).isSome := by
    rw [structIndex?, List.findIdx?_isSome, List.any_eq_true]
    exact ⟨s, member, by simp [named]⟩
  obtain ⟨d, index⟩ := Option.isSome_iff_exists.mp found
  exact ⟨d, structIndex?_eq_some_iff.mp index⟩

end Items

/-! ### The structs in order -/

theorem getElem?_filterMap_of_isSome {α β : Type} {f : α → Option β} {as : List α}
    (total : ∀ a ∈ as, (f a).isSome) (k : Nat) : (as.filterMap f)[k]? = as[k]?.bind f := by
  induction as generalizing k with
  | nil => rfl
  | cons a as ih =>
    obtain ⟨b, image⟩ := Option.isSome_iff_exists.mp (total a List.mem_cons_self)
    rw [List.filterMap_cons_some image]
    cases k with
    | zero => simp [image]
    | succ k =>
      rw [List.getElem?_cons_succ, List.getElem?_cons_succ]
      exact ih (fun a member => total a (List.mem_cons_of_mem _ member)) k

theorem bounded_of_perm_range {order : List Nat} {n : Nat} (complete : order.Perm (List.range n)) :
    ∀ i ∈ order, i < n :=
  fun _ member => List.mem_range.mp (complete.subset member)

namespace Items

theorem arranged_eq {items out : Items} (accepted : items.arranged = .ok out) :
    ∃ order, items.layoutOrder = .ok order ∧ out = items.arrangeBy order := by
  have clean := arranged_ok accepted
  cases found : items.layoutOrder with
  | error name => simp [problems, cycleProblems, found] at clean
  | ok order =>
    refine ⟨order, rfl, ?_⟩
    simpa [arranged, clean, found, eq_comm] using accepted

theorem abstractStructs_of_arranged {items out : Items} (accepted : items.arranged = .ok out) :
    out.abstractStructs = items.abstractStructs := by
  obtain ⟨order, -, rfl⟩ := arranged_eq accepted
  rfl

theorem functions_of_arranged {items out : Items} (accepted : items.arranged = .ok out) :
    out.functions = items.functions := by
  obtain ⟨order, -, rfl⟩ := arranged_eq accepted
  rfl

theorem arrangeBy_getElem? {items : Items} {order : List Nat}
    (bounded : ∀ i ∈ order, i < items.structs.length) (k : Nat) :
    (items.arrangeBy order).structs[k]? = order[k]?.bind fun i => items.structs[i]? := by
  refine getElem?_filterMap_of_isSome ?_ k
  intro i member
  simp [bounded i member]

theorem arrangeBy_range (items : Items) :
    (items.arrangeBy (List.range items.structs.length)).structs = items.structs := by
  apply List.ext_getElem?
  intro k
  rw [arrangeBy_getElem? (by simp)]
  by_cases inside : k < items.structs.length
  · simp [inside]
  · have outside : items.structs.length ≤ k := Nat.le_of_not_lt inside
    rw [List.getElem?_eq_none (by simpa using outside), List.getElem?_eq_none outside]
    rfl

theorem arrangeBy_perm {items : Items} {order : List Nat}
    (complete : order.Perm (List.range items.structs.length)) :
    (items.arrangeBy order).structs.Perm items.structs := by
  have permuted := complete.filterMap fun i => items.structs[i]?
  have whole : (List.range items.structs.length).filterMap (fun i => items.structs[i]?) =
      items.structs := items.arrangeBy_range
  rw [whole] at permuted
  exact permuted

theorem layoutOrder_perm {items : Items} {order : List Nat}
    (found : items.layoutOrder = .ok order) :
    order.Perm (List.range items.structs.length) := by
  have perm := (LayoutOrder.order_ok (layoutOrder_ok found)).2
  rwa [layoutGraph, List.length_map] at perm

theorem layoutOrder_contains {items : Items} {order : List Nat}
    (found : items.layoutOrder = .ok order) {k i d : Nat} (placed : order[k]? = some i)
    (contains : items.Contains i d) : ∃ j < k, order[j]? = some d := by
  obtain ⟨orderly, -⟩ := LayoutOrder.order_ok (layoutOrder_ok found)
  obtain ⟨inside, rfl⟩ := List.getElem?_eq_some_iff.mp placed
  rw [← needs_layoutGraph] at contains
  obtain ⟨member, lower⟩ := orderly.idxOf_lt (List.getElem_mem inside) contains
  rw [List.Nodup.idxOf_getElem orderly.nodup k inside] at lower
  exact ⟨order.idxOf d, lower, List.getElem?_idxOf member⟩

theorem contained_before {items out : Items} (accepted : items.arranged = .ok out) :
    EachAfter (fun before s => ∀ f ∈ s.fields, ∀ name, f.ty.byValueName = some name →
      name ∈ before.map Struct.name) out.structs := by
  intro before s after split f field name contained
  obtain ⟨order, found, rfl⟩ := arranged_eq accepted
  have placed := arrangeBy_getElem? (bounded_of_perm_range (layoutOrder_perm found))
  have here : (items.arrangeBy order).structs[before.length]? = some s := by simp [split]
  rw [placed, Option.bind_eq_some_iff] at here
  obtain ⟨i, atPlace, struct⟩ := here
  have declared := mem_structNames_of_byValueName accepted (List.mem_of_getElem? struct) field
    contained
  obtain ⟨d, first⟩ := isFirst_of_mem_structNames declared
  obtain ⟨j, lower, earlier⟩ :=
    layoutOrder_contains found atPlace ⟨s, struct, f, field, name, contained, first⟩
  obtain ⟨t, stored, named⟩ := first.1
  have target : (items.arrangeBy order).structs[j]? = some t := by
    rw [placed, earlier, Option.bind_some, stored]
  rw [split, List.getElem?_append_left lower] at target
  exact List.mem_map.mpr ⟨t, List.mem_of_getElem? target, named⟩

/-- An accepted description comes back with the same structs in another order and nothing else
changed, and whatever a field contains by value is one struct, which stands before it. -/
theorem validated_in_layout_order {items out : Items}
    (accepted : items.validated.result = .ok out) :
    out.structs.Perm items.structs ∧ out.abstractStructs = items.abstractStructs ∧
      out.functions = items.functions ∧
      ∀ (k : Nat) (s : Struct), out.structs[k]? = some s →
        ∀ f ∈ s.fields, ∀ name, f.ty.byValueName = some name →
          ∃ j < k, (∃ t : Struct, out.structs[j]? = some t ∧ t.name = name) ∧
            ∀ (l : Nat) (t : Struct), out.structs[l]? = some t → t.name = name → l = j := by
  replace accepted : items.arranged = .ok out := accepted
  obtain ⟨order, found, rfl⟩ := arranged_eq accepted
  have complete := layoutOrder_perm found
  have permuted := arrangeBy_perm complete
  have placed := arrangeBy_getElem? (bounded_of_perm_range complete)
  refine ⟨permuted, rfl, rfl, ?_⟩
  intro k s here f field name contained
  rw [placed, Option.bind_eq_some_iff] at here
  obtain ⟨i, atPlace, struct⟩ := here
  have declared := mem_structNames_of_byValueName accepted (List.mem_of_getElem? struct) field
    contained
  obtain ⟨d, first⟩ := isFirst_of_mem_structNames declared
  obtain ⟨j, before, earlier⟩ :=
    layoutOrder_contains found atPlace ⟨s, struct, f, field, name, contained, first⟩
  obtain ⟨t, stored, named⟩ := first.1
  have target : (items.arrangeBy order).structs[j]? = some t := by
    rw [placed, earlier, Option.bind_some, stored]
  refine ⟨j, before, ⟨t, target, named⟩, ?_⟩
  -- Names are declared once, so the name alone tells the position.
  have distinct : ((items.arrangeBy order).structs.map Struct.name).Nodup :=
    (permuted.map Struct.name).nodup_iff.mpr (nodup_structNames_of_arranged accepted)
  intro l other elsewhere same
  refine (List.getElem?_inj ?_ distinct).mp ?_
  · rw [List.length_map]
    exact (List.getElem?_eq_some_iff.mp elsewhere).1
  · rw [List.getElem?_map, List.getElem?_map, elsewhere, target, Option.map_some, Option.map_some,
      same, named]

def frameFirst : Items where
  structs := [
    { name := "frame", fields := [{ name := "corners", ty := .array (.named "point") 4 }] },
    { name := "point", fields := [{ name := "x", ty := .primitive .f32 }] }]

def pointFirst : Items where
  structs := [
    { name := "point", fields := [{ name := "x", ty := .primitive .f32 }] },
    { name := "frame", fields := [{ name := "corners", ty := .array (.named "point") 4 }] }]

theorem frameFirst_in_layout_order :
    frameFirst.validated.result = .ok pointFirst ∧ pointFirst.structs.Perm frameFirst.structs ∧
      ∃ j < 1, (∃ t : Struct, pointFirst.structs[j]? = some t ∧ t.name = "point") ∧
        ∀ (l : Nat) (t : Struct), pointFirst.structs[l]? = some t → t.name = "point" → l = j := by
  have accepted : frameFirst.validated.result = .ok pointFirst := rfl
  obtain ⟨permuted, -, -, ordered⟩ := validated_in_layout_order accepted
  exact ⟨accepted, permuted, ordered 1 _ rfl _ List.mem_cons_self "point" rfl⟩

end Items

end Bindery
