import Bindery.Generate
import Bindery.Proofs.Header.Parts
import Bindery.Proofs.Validity.Least

set_option autoImplicit false
set_option relaxedAutoImplicit false

/-!
Checking a description a second time. Whether a spot has a fault depends on which names are declared
and not on their order, so putting the structs in order makes no new faults, and the order that has
been found is its own layout order. Main statement: what the check returns is accepted as it is, and
the files that are generated from it are those of the description that was checked.
-/

namespace Bindery

theorem fresh_of_nodup {α : Type} (nameOf : α → String) (earlier : List String) {as : List α}
    (distinct : (as.map nameOf).Nodup) (unseen : ∀ a ∈ as, nameOf a ∉ earlier) :
    ∀ e ∈ withEarlier nameOf earlier as, nameOf e.2 ∉ e.1 := by
  induction as generalizing earlier with
  | nil => simp [withEarlier]
  | cons first rest ih =>
    rw [List.map_cons, List.nodup_cons] at distinct
    intro e member
    rcases List.mem_cons.mp member with rfl | later
    · exact unseen first List.mem_cons_self
    · refine ih (nameOf first :: earlier) distinct.2 ?_ e later
      intro a inRest seen
      rcases List.mem_cons.mp seen with same | old
      · exact distinct.1 (same ▸ List.mem_map_of_mem inRest)
      · exact unseen a (List.mem_cons_of_mem _ inRest) old

theorem mem_of_withEarlier {α : Type} (nameOf : α → String) (earlier : List String) {as : List α}
    {e : List String × α} (member : e ∈ withEarlier nameOf earlier as) : e.2 ∈ as := by
  induction as generalizing earlier with
  | nil => simp [withEarlier] at member
  | cons first rest ih =>
    rcases List.mem_cons.mp member with rfl | later
    · exact List.mem_cons_self
    · exact List.mem_cons_of_mem _ (ih _ later)

namespace Items

variable {items other out : Items}

theorem Faulty.of_names {spot : Spot} {p : Problem} (fault : items.Faulty spot p)
    (structs : ∀ name, name ∈ other.structNames ↔ name ∈ items.structNames)
    (abstracts : ∀ name, name ∈ other.abstractNames ↔ name ∈ items.abstractNames)
    (functions : ∀ name, name ∈ other.functionNames ↔ name ∈ items.functionNames) :
    other.Faulty spot p := by
  cases fault with
  | invalidIdentifier irregular => exact .invalidIdentifier irregular
  | duplicateItem again => exact .duplicateItem again
  | duplicateField again => exact .duplicateField again
  | duplicateArg again => exact .duplicateArg again
  | unknownType noStruct noAbstract noFunction =>
    exact .unknownType (by rwa [structs]) (by rwa [abstracts]) (by rwa [functions])
  | notAType noStruct noAbstract function =>
    exact .notAType (by rwa [structs]) (by rwa [abstracts]) (by rwa [functions])
  | unsized noStruct abstract held => exact .unsized (by rwa [structs]) (by rwa [abstracts]) held
  | invalidOwned noPointer noSlice => exact .invalidOwned noPointer noSlice
  | zeroLengthArray => exact .zeroLengthArray
  | closureArity many => exact .closureArity many
  | arrayByValue handed => exact .arrayByValue handed

theorem declarationProblems_eq_nil_iff :
    items.declarationProblems = [] ↔ ∀ spot ∈ items.spots, ∀ p, ¬ items.Faulty spot p := by
  rw [declarationProblems_eq, List.flatMap_eq_nil_iff]
  refine forall₂_congr fun spot _ => ?_
  rw [List.eq_nil_iff_forall_not_mem]
  exact forall_congr' fun p => not_congr Spot.mem_problems_iff

section Accepted

variable (accepted : items.arranged = .ok out)

include accepted

theorem names_perm_of_arranged :
    (out.structNames ++ out.abstractNames ++ out.functionNames).Perm
      (items.structNames ++ items.abstractNames ++ items.functionNames) := by
  rw [abstractNames_of_arranged accepted, functionNames_of_arranged accepted]
  exact ((structNames_perm_of_arranged accepted).append_right _).append_right _

theorem nameSpots_sound_of_arranged {spot : Spot} (member : spot ∈ out.nameSpots) (p : Problem) :
    ¬ items.Faulty spot p := by
  have perm := names_perm_of_arranged accepted
  obtain ⟨⟨earlier, name⟩, entry, rfl⟩ := List.mem_map.mp member
  have distinct := perm.nodup_iff.mpr (nodup_names_of_arranged accepted)
  have fresh := fresh_of_nodup id [] (by simpa using distinct) (by simp) _ entry
  -- The name itself is also a spot of the old order.
  obtain ⟨before, old⟩ := mem_withEarlier id [] (perm.subset (mem_of_withEarlier id [] entry))
  have sound := not_faulty_of_arranged accepted (nameSpot_mem (List.mem_map.mpr ⟨_, old, rfl⟩))
  intro fault
  cases fault with
  | invalidIdentifier irregular => exact sound _ (.invalidIdentifier irregular)
  | duplicateItem again => exact fresh again

theorem spots_sound_of_arranged {spot : Spot} (member : spot ∈ out.spots) (p : Problem) :
    ¬ items.Faulty spot p := by
  rcases List.mem_append.mp member with declared | inFunction
  · rcases List.mem_append.mp declared with inNames | inStruct
    · exact nameSpots_sound_of_arranged accepted inNames p
    · obtain ⟨s, struct, own⟩ := List.mem_flatMap.mp inStruct
      have old := (structs_perm_of_arranged accepted).subset struct
      exact not_faulty_of_arranged accepted (List.mem_append_left _
        (List.mem_append_right _ (List.mem_flatMap.mpr ⟨s, old, own⟩))) p
  · rw [functions_of_arranged accepted] at inFunction
    exact not_faulty_of_arranged accepted (List.mem_append_right _ inFunction) p

theorem declarationProblems_of_arranged : out.declarationProblems = [] := by
  refine declarationProblems_eq_nil_iff.mpr fun spot member p fault => ?_
  refine spots_sound_of_arranged accepted member p (fault.of_names ?_ ?_ ?_)
  · exact fun name => (structNames_perm_of_arranged accepted).mem_iff.symm
  · exact fun name => by rw [abstractNames_of_arranged accepted]
  · exact fun name => by rw [functionNames_of_arranged accepted]

/-- What a struct contains has a smaller number once the structs are in order. -/
theorem contains_lt_of_arranged {i d : Nat} (contains : out.Contains i d) : d < i := by
  obtain ⟨s, found, f, field, name, contained, first⟩ := contains
  obtain ⟨inside, rfl⟩ := List.getElem?_eq_some_iff.mp found
  have split : out.structs = out.structs.take i ++ out.structs[i] :: out.structs.drop (i + 1) := by
    rw [List.getElem_cons_drop, List.take_append_drop]
  have earlier := contained_before accepted _ _ _ split f field name contained
  obtain ⟨t, member, named⟩ := List.mem_map.mp earlier
  obtain ⟨j, before, rfl⟩ := List.mem_take_iff_getElem.mp member
  by_contra later
  exact first.2 j (by omega) _ (List.getElem?_eq_getElem _) named

theorem isLayoutOrder_range_of_arranged : out.IsLayoutOrder (List.range out.structs.length) := by
  refine ⟨.refl _, ?_⟩
  intro before i after split d contains
  have lower := contains_lt_of_arranged accepted contains
  have sorted : (before ++ i :: after).Pairwise (· < ·) := split ▸ List.pairwise_lt_range
  have listed : d ∈ before ++ i :: after := by
    rw [← split, List.mem_range]
    obtain ⟨s, found, -⟩ := contains
    have inside := (List.getElem?_eq_some_iff.mp found).1
    omega
  -- Everything that is listed from the struct on is at least as large.
  rcases List.mem_append.mp listed with earlier | later
  · exact earlier
  · rcases List.mem_cons.mp later with rfl | beyond
    · omega
    · have larger := List.rel_of_pairwise_cons (List.pairwise_append.mp sorted).2.1 beyond
      omega

theorem layoutOrder_of_arranged : out.layoutOrder = .ok (List.range out.structs.length) := by
  have valid := isLayoutOrder_range_of_arranged accepted
  cases outcome : out.layoutOrder with
  | ok order =>
    have sorted :=
      (layoutOrder_le outcome valid).resolve_right (not_lt_range (layoutOrder_perm outcome))
    rw [sorted]
  | error name =>
    -- Along a chain of contained structs the numbers go down, so no chain comes back.
    obtain ⟨i, -, -, -, cycle⟩ := containsItself_of_layoutOrder_error outcome
    have descends : ∀ d, Relation.TransGen out.Contains i d → d < i := by
      intro d chain
      induction chain with
      | single contains => exact contains_lt_of_arranged accepted contains
      | tail _ contains ih => exact Nat.lt_trans (contains_lt_of_arranged accepted contains) ih
    exact absurd (descends i cycle) (Nat.lt_irrefl i)

theorem problems_of_arranged : out.problems = [] := by
  rw [problems, declarationProblems_of_arranged accepted, cycleProblems,
    layoutOrder_of_arranged accepted]
  rfl

theorem arranged_of_arranged : out.arranged = .ok out := by
  have kept : out.arrangeBy (List.range out.structs.length) = out :=
    congrArg (fun structs => { out with structs }) out.arrangeBy_range
  rw [arranged, problems_of_arranged accepted, layoutOrder_of_arranged accepted]
  exact congrArg Except.ok kept

end Accepted

end Items

theorem Generate.checked_congr {α : Type} {options : Options} {items other : Items}
    {cache : ManifestCache} {next : Items → ManifestCache × Run GenerateError α}
    (same : items.validated.result = other.validated.result) :
    (Generate.checked options items cache next).2.result =
      (Generate.checked options other cache next).2.result := by
  unfold Generate.checked
  cases options.check with
  | error e => simp [Except.bind]
  | ok _ =>
    cases valid : other.validated.result <;>
      simp [same, valid, Except.bind, Run.mapError, Except.mapError]

/-- A description that the check returns has no problems, its structs stand in layout order, and
checking it again or generating files from it comes to the same as for the description that it was
made from. -/
theorem validated_settled {items out : Items} (accepted : items.validated.result = .ok out) :
    out.validate.result = .ok () ∧ out.problems = [] ∧
      out.layoutOrder = .ok (List.range out.structs.length) ∧
      out.validated.result = .ok out ∧
      ∀ (env : Environment) (options : Options) (cache : ManifestCache),
        (generate env options out cache).2.result = (generate env options items cache).2.result ∧
          ∀ t, (generateMain env options out t cache).2.result =
            (generateMain env options items t cache).2.result := by
  have again := Items.arranged_of_arranged accepted
  have same : out.validated.result = items.validated.result := again.trans accepted.symm
  refine ⟨?_, Items.problems_of_arranged accepted,
    Items.layoutOrder_of_arranged accepted, again, ?_⟩
  · rw [Items.validate, again]
    rfl
  · intro env options cache
    exact ⟨Generate.checked_congr same, fun t => Generate.checked_congr same⟩

def outsideIn : Items where
  structs := [
    { name := "outer", fields := [{ name := "inner", ty := .array (.named "inner") 2 }] },
    { name := "free" },
    { name := "inner"
      fields := [
        { name := "leaf", ty := .named "leaf" },
        { name := "owner", ty := .pointer .mutable (.named "handle") }] },
    { name := "leaf", fields := [{ name := "x", ty := .primitive .u8 }] }]
  abstractStructs := [{ name := "handle" }]
  functions := [
    { name := "get"
      params := [{ name := "h", ty := .pointer .const (.named "handle") }]
      returns := some (.named "outer") }]

def insideOut : Items where
  structs := [
    { name := "free" },
    { name := "leaf", fields := [{ name := "x", ty := .primitive .u8 }] },
    { name := "inner"
      fields := [
        { name := "leaf", ty := .named "leaf" },
        { name := "owner", ty := .pointer .mutable (.named "handle") }] },
    { name := "outer", fields := [{ name := "inner", ty := .array (.named "inner") 2 }] }]
  abstractStructs := outsideIn.abstractStructs
  functions := outsideIn.functions

theorem outsideIn_settled :
    outsideIn.validated.result = .ok insideOut ∧ insideOut ≠ outsideIn ∧
      insideOut.layoutOrder = .ok [0, 1, 2, 3] ∧ insideOut.validated.result = .ok insideOut ∧
      ∀ (env : Environment) (options : Options) (cache : ManifestCache),
        (generate env options insideOut cache).2.result =
          (generate env options outsideIn cache).2.result := by
  have accepted : outsideIn.validated.result = .ok insideOut := rfl
  obtain ⟨-, -, order, again, files⟩ := validated_settled accepted
  exact ⟨accepted, by decide, order, again, fun env options cache => (files env options cache).1⟩

end Bindery
