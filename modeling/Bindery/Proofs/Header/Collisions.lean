import Bindery.Proofs.Outcome

set_option autoImplicit false
set_option relaxedAutoImplicit false

/-!
When two typedefs collide. The types that want a typedef are told by where they stand in the
declared types: not directly below an owned one, whose reference it takes over, and an owned slice
wants the slice that it holds besides. Main statement: collecting the typedefs of a valid
description fails exactly if two such types have one name and differ in C, in whatever order the
types are declared.
-/

namespace Bindery

namespace Ty

def lacksNotation : Ty → Bool
  | .slice _ _ => true
  | .owned _ => true
  | .function _ _ => true
  | .closure _ _ => true
  | _ => false

/-- A type stands in another one, but not directly below an owned one. -/
def StandsIn (u t : Ty) : Prop :=
  u = t ∨ ∃ w, Inside w t ∧ (∀ inner, w ≠ .owned inner) ∧ u ∈ w.children

/-- A type is the slice that can be written which an owned slice in another type holds. -/
def HeldIn (u t : Ty) : Prop :=
  ∃ m element, u = .slice .mutable element ∧ Inside (.owned (.slice m element)) t

variable {t u w : Ty}

theorem StandsIn.inside (stands : StandsIn u t) : Inside u t := by
  rcases stands with rfl | ⟨w, within, -, child⟩
  · exact .refl
  · exact within.tail child

theorem parts_of_notOwned (free : ∀ inner, w ≠ .owned inner) : w.parts = w.children := by
  cases w with
  | owned inner => exact absurd rfl (free inner)
  | _ => rfl

theorem OwnsReferences.notOwned (owns : t.OwnsReferences) (within : Inside (.owned w) t) :
    ∀ inner, w ≠ .owned inner := by
  rintro inner rfl
  have reference := owns (.owned inner) within
  simp [isReference] at reference

theorem stands_or_held_of_part (owns : t.OwnsReferences) (part : Part u t) :
    StandsIn u t ∨ HeldIn u t := by
  induction part with
  | refl => exact .inl (.inl rfl)
  | @tail w u _ step ih =>
    by_cases owned : ∃ inner, w = .owned inner
    · obtain ⟨inner, rfl⟩ := owned
      -- What is owned is no slice that is held, so it stands in the type.
      have within : Inside (.owned inner) t := by
        rcases ih with stands | ⟨m, element, same, -⟩
        · exact stands.inside
        · cases same
      have reference := owns inner within
      cases inner with
      | pointer m pointee =>
        obtain rfl := List.mem_singleton.mp step
        have below : Inside (.pointer m u) t := within.tail List.mem_cons_self
        exact .inl (.inr ⟨_, below, by simp, List.mem_cons_self⟩)
      | slice m element =>
        obtain rfl := List.mem_singleton.mp step
        exact .inr ⟨m, element, rfl, within⟩
      | _ => simp [isReference] at reference
    · have free : ∀ inner, w ≠ .owned inner := fun inner same => owned ⟨inner, same⟩
      rw [parts_of_notOwned free] at step
      rcases ih with stands | ⟨m, element, rfl, within⟩
      · exact .inl (.inr ⟨w, stands.inside, free, step⟩)
      · obtain rfl := List.mem_singleton.mp step
        have below : Inside (.slice m u) t := within.tail List.mem_cons_self
        exact .inl (.inr ⟨_, below, by simp, List.mem_cons_self⟩)

theorem part_of_child (free : ∀ inner, w ≠ .owned inner) (child : u ∈ w.children)
    (owns : t.OwnsReferences) (parent : Part w t ∨ Part (.owned w) t) : Part u t := by
  rcases parent with part | part
  · exact part.tail (by rwa [parts_of_notOwned free])
  · have within : Inside (.owned w) t := inside_of_part part .refl (by simp)
    have reference := owns w within
    cases w with
    | pointer m pointee =>
      obtain rfl := List.mem_singleton.mp child
      exact part.tail List.mem_cons_self
    | slice m element =>
      obtain rfl := List.mem_singleton.mp child
      have held : Part (.slice .mutable u) t := part.tail List.mem_cons_self
      exact held.tail List.mem_cons_self
    | _ => simp [isReference] at reference

/-- Whatever is inside a type is a part of it or the reference of an owned part. -/
theorem part_or_owned_of_inside (owns : t.OwnsReferences) (inside : Inside w t) :
    Part w t ∨ Part (.owned w) t := by
  induction inside with
  | refl => exact .inl .refl
  | @tail v w within child ih =>
    by_cases owned : ∃ inner, v = .owned inner
    · obtain ⟨inner, rfl⟩ := owned
      obtain rfl := List.mem_singleton.mp child
      refine .inr (ih.resolve_right fun part => ?_)
      have twice : Inside (.owned (.owned w)) t := inside_of_part part .refl (by simp)
      exact owns.notOwned twice w rfl
    · have free : ∀ inner, v ≠ .owned inner := fun inner same => owned ⟨inner, same⟩
      exact .inl (part_of_child free child owns ih)

theorem part_of_stands (owns : t.OwnsReferences) (stands : StandsIn u t) : Part u t := by
  rcases stands with rfl | ⟨w, within, free, child⟩
  · exact .refl
  · exact part_of_child free child owns (part_or_owned_of_inside owns within)

theorem part_of_held (owns : t.OwnsReferences) (held : HeldIn u t) : Part u t := by
  obtain ⟨m, element, rfl, within⟩ := held
  have part : Part (.owned (.slice m element)) t := by
    refine (part_or_owned_of_inside owns within).resolve_right fun twice => ?_
    exact owns.notOwned (inside_of_part twice .refl (by simp)) _ rfl
  exact part.tail List.mem_cons_self

theorem lacksNotation_of_isCarrier (carrier : Header.isCarrier u = true) :
    u.lacksNotation = true := by
  unfold Header.isCarrier at carrier
  split at carrier <;> simp_all [lacksNotation]

theorem isCarrier_of_lacksNotation (owns : t.OwnsReferences) (inside : Inside u t)
    (lacks : u.lacksNotation = true) : Header.isCarrier u = true := by
  cases u with
  | owned inner => exact Header.isCarrier_owned (owns inner inside)
  | _ => simp_all [lacksNotation, Header.isCarrier]

theorem carrier_part_iff (owns : t.OwnsReferences) :
    Header.isCarrier u = true ∧ Part u t ↔
      (u.lacksNotation = true ∧ StandsIn u t) ∨ HeldIn u t := by
  constructor
  · rintro ⟨carrier, part⟩
    have lacks := lacksNotation_of_isCarrier carrier
    exact (stands_or_held_of_part owns part).imp_left fun stands => ⟨lacks, stands⟩
  · rintro (⟨lacks, stands⟩ | held)
    · exact ⟨isCarrier_of_lacksNotation owns stands.inside lacks, part_of_stands owns stands⟩
    · refine ⟨?_, part_of_held owns held⟩
      obtain ⟨m, element, rfl, -⟩ := held
      rfl

end Ty

namespace Items

def Declares (items : Items) (t : Ty) : Prop :=
  (∃ s ∈ items.structs, ∃ f ∈ s.fields, f.ty = t) ∨
    ∃ f ∈ items.functions, (∃ p ∈ f.params, p.ty = t) ∨ f.returns = some t

/-- A type wants a typedef in the header of a description. -/
def Wants (items : Items) (u : Ty) : Prop :=
  ∃ t, items.Declares t ∧ ((u.lacksNotation = true ∧ u.StandsIn t) ∨ u.HeldIn t)

/-- Every struct and every function of a description is in another one too, with its fields or
parameters in some order. -/
def Within (items other : Items) : Prop :=
  (∀ s ∈ items.structs, ∃ r ∈ other.structs, s.name = r.name ∧ s.fields.Perm r.fields) ∧
    ∀ f ∈ items.functions, ∃ g ∈ other.functions,
      f.name = g.name ∧ f.params.Perm g.params ∧ f.returns = g.returns

/-- Two descriptions declare the same structs and functions, in whatever order. -/
def Reordered (items other : Items) : Prop := items.Within other ∧ other.Within items

variable {items other out : Items} {t u : Ty}

theorem mem_declaredTypes_iff_declares : t ∈ Header.declaredTypes items ↔ items.Declares t := by
  simp only [Header.declaredTypes, List.mem_append, List.mem_flatMap, List.mem_map, Declares,
    Option.mem_toList]

theorem Within.of_subset (structs : items.structs ⊆ other.structs)
    (functions : items.functions ⊆ other.functions) : items.Within other :=
  ⟨fun s member => ⟨s, structs member, rfl, .refl _⟩,
    fun f member => ⟨f, functions member, rfl, .refl _, rfl⟩⟩

theorem Reordered.refl (items : Items) : items.Reordered items :=
  ⟨.of_subset (List.Subset.refl _) (List.Subset.refl _),
    .of_subset (List.Subset.refl _) (List.Subset.refl _)⟩

theorem Reordered.of_arranged (accepted : items.arranged = .ok out) : items.Reordered out := by
  have structs := structs_perm_of_arranged accepted
  have functions := functions_of_arranged accepted
  constructor
  · exact .of_subset structs.symm.subset (functions ▸ List.Subset.refl _)
  · exact .of_subset structs.subset (functions ▸ List.Subset.refl _)

theorem Within.declares (within : items.Within other) (declared : items.Declares t) :
    other.Declares t := by
  rcases declared with ⟨s, struct, f, field, rfl⟩ | ⟨f, function, used⟩
  · obtain ⟨r, member, -, fields⟩ := within.1 s struct
    exact .inl ⟨r, member, f, fields.subset field, rfl⟩
  · obtain ⟨g, member, -, params, returns⟩ := within.2 f function
    refine .inr ⟨g, member, ?_⟩
    rcases used with ⟨p, param, rfl⟩ | result
    · exact .inl ⟨p, params.subset param, rfl⟩
    · exact .inr (returns.symm.trans result)

theorem Reordered.declares_iff (reordered : items.Reordered other) :
    other.Declares t ↔ items.Declares t :=
  ⟨reordered.2.declares, reordered.1.declares⟩

theorem needsTypedef_iff_wants (accepted : items.arranged = .ok out)
    (reordered : items.Reordered other) : Header.NeedsTypedef other u ↔ items.Wants u := by
  have owns : ∀ t, items.Declares t → t.OwnsReferences := fun t declared =>
    ownsReferences_of_arranged accepted (mem_declaredTypes_iff_declares.mpr declared)
  unfold Header.NeedsTypedef Wants
  constructor
  · rintro ⟨carrier, t, declared, part⟩
    have declares := reordered.declares_iff.mp (mem_declaredTypes_iff_declares.mp declared)
    exact ⟨t, declares, (Ty.carrier_part_iff (owns t declares)).mp ⟨carrier, part⟩⟩
  · rintro ⟨t, declares, wanted⟩
    obtain ⟨carrier, part⟩ := (Ty.carrier_part_iff (owns t declares)).mpr wanted
    have declared := mem_declaredTypes_iff_declares.mpr (reordered.declares_iff.mpr declares)
    exact ⟨carrier, t, declared, part⟩

end Items

namespace Header

variable {items out : Items}

/-- A collision is found only between two types that need a typedef, under the name that it
reports. -/
theorem collide_of_typedefs_error {tag : String} {e : GenerateError}
    (failed : typedefs tag items = .error e) :
    ∃ t u, NeedsTypedef items t ∧ NeedsTypedef items u ∧ Collide tag t u ∧
      e = .typedefCollision (typedefName tag t) := by
  obtain ⟨name, ⟨before, u, after, order, rfl, -, t, earlier, collide⟩, rfl⟩ :=
    typedefs_error_iff.mp failed
  have listed : ∀ v ∈ before ++ [u], NeedsTypedef items v := by
    intro v member
    apply mem_flatMap_carriers_iff.mp
    rw [order, List.append_cons]
    exact List.mem_append_left after member
  refine ⟨t, u, listed t ?_, listed u (by simp), collide, ?_⟩
  · exact List.mem_append_left _ (by simpa using earlier)
  · rw [collide.1]

/-- Collecting the typedefs of a valid description fails exactly if two types that want one have the
same name and differ in C; it reports the name of two such types, and the order of declarations
makes no difference to whether it fails. -/
theorem collision_found_iff (valid : items.validated.result = .ok out) (tag : String) :
    items.Reordered out ∧
    ∀ other, items.Reordered other →
      ((∃ name, typedefs tag other = .error (.typedefCollision name)) ↔
        ∃ t u, items.Wants t ∧ items.Wants u ∧ Collide tag t u) ∧
      ∀ e, typedefs tag other = .error e → ∃ t u, items.Wants t ∧ items.Wants u ∧
        Collide tag t u ∧ e = .typedefCollision (typedefName tag t) := by
  refine ⟨.of_arranged valid, fun other reordered => ?_⟩
  have wants : ∀ u, NeedsTypedef other u ↔ items.Wants u := fun u =>
    Items.needsTypedef_iff_wants valid reordered
  have reported : ∀ e, typedefs tag other = .error e → ∃ t u, items.Wants t ∧ items.Wants u ∧
      Collide tag t u ∧ e = .typedefCollision (typedefName tag t) := by
    intro e failed
    obtain ⟨t, u, first, second, collide, rfl⟩ := collide_of_typedefs_error failed
    exact ⟨t, u, (wants t).mp first, (wants u).mp second, collide, rfl⟩
  refine ⟨⟨?_, ?_⟩, reported⟩
  · rintro ⟨name, failed⟩
    obtain ⟨t, u, first, second, collide, -⟩ := reported _ failed
    exact ⟨t, u, first, second, collide⟩
  · rintro ⟨t, u, first, second, collide⟩
    cases outcome : typedefs tag other with
    | ok ts =>
      have apart := typedefs_ok_iff.mp ⟨ts, outcome⟩
      exact absurd collide (apart t u ((wants t).mpr first) ((wants u).mpr second))
    | error e =>
      obtain ⟨t, u, -, -, -, rfl⟩ := reported _ outcome
      exact ⟨_, rfl⟩

def spelledAlike : Items where
  structs := [{ name := "u8_ptr", fields := [{ name := "x", ty := .primitive .u8 }] }]
  functions := [
    { name := "a"
      params := [{ name := "x", ty := .slice .const (.pointer .mutable (.primitive .u8)) }] },
    { name := "b", params := [{ name := "y", ty := .slice .const (.named "u8_ptr") }] }]

theorem spelledAlike_collide :
    spelledAlike.validated.result = .ok spelledAlike ∧
      typedefs "kv" spelledAlike = .error (.typedefCollision "kv_slice_const_u8_ptr") ∧
      ∃ t u, spelledAlike.Wants t ∧ spelledAlike.Wants u ∧ Collide "kv" t u := by
  have valid : spelledAlike.validated.result = .ok spelledAlike := rfl
  have failed : typedefs "kv" spelledAlike =
      .error (.typedefCollision "kv_slice_const_u8_ptr") := by
    decide
  have exact := (collision_found_iff valid "kv").2 spelledAlike (.refl _)
  exact ⟨valid, failed, exact.1.mp ⟨_, failed⟩⟩

end Header

end Bindery
