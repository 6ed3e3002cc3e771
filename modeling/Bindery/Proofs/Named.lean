import Bindery.Named
import Mathlib.Data.List.Nodup

set_option autoImplicit false
set_option relaxedAutoImplicit false

/-!
More about values under names: what setting and leaving out a name do to the list as a whole, and to
the list with every value replaced by another one.
-/

namespace Bindery.Named

variable {α β : Type}

theorem mem_set {names : Named α} {name : String} {a : α} {e : String × α}
    (member : e ∈ names.set name a) : e ∈ names ∨ e = (name, a) := by
  induction names with
  | nil => exact Or.inr (by simpa [set] using member)
  | cons first rest ih =>
    by_cases found : first.1 = name
    · simp only [set, found, beq_self_eq_true, if_true, List.mem_cons] at member
      rcases member with new | old
      · exact Or.inr new
      · exact Or.inl (List.mem_cons_of_mem _ old)
    · simp only [set, found, beq_iff_eq, if_false, List.mem_cons] at member
      rcases member with rfl | later
      · exact Or.inl List.mem_cons_self
      · rcases ih later with old | new
        · exact Or.inl (List.mem_cons_of_mem _ old)
        · exact Or.inr new

theorem nodup_set {names : Named α} (name : String) (a : α) (nodup : (names.map Prod.fst).Nodup) :
    ((names.set name a).map Prod.fst).Nodup := by
  induction names with
  | nil => simp [set]
  | cons first rest ih =>
    obtain ⟨fresh, nodup⟩ := List.nodup_cons.mp nodup
    by_cases found : first.1 = name
    · simp only [set, found, beq_self_eq_true, if_true, List.map_cons]
      exact List.nodup_cons.mpr ⟨found ▸ fresh, nodup⟩
    · simp only [set, found, beq_iff_eq, if_false, List.map_cons]
      refine List.nodup_cons.mpr ⟨?_, ih nodup⟩
      intro member
      obtain ⟨e, later, same⟩ := List.mem_map.mp member
      rcases mem_set later with old | rfl
      · exact fresh (same ▸ List.mem_map_of_mem old)
      · exact found same.symm

theorem erase_sublist (names : Named α) (name : String) : (names.erase name).Sublist names :=
  List.filter_sublist

theorem erase_of_notMem {names : Named α} {name : String} (absent : name ∉ names.map Prod.fst) :
    names.erase name = names := by
  apply List.filter_eq_self.mpr
  intro e member
  have different : e.1 ≠ name := fun same => absent (same ▸ List.mem_map_of_mem member)
  simpa using different

theorem mem_of_get? {names : Named α} {name : String} {a : α} (found : names.get? name = some a) :
    (name, a) ∈ names := by
  obtain ⟨e, first, rfl⟩ := Option.map_eq_some_iff.mp found
  have named : e.1 = name := by simpa using List.find?_some first
  exact named ▸ List.mem_of_find?_eq_some first

theorem get?_of_mem {names : Named α} (nodup : (names.map Prod.fst).Nodup) {e : String × α}
    (member : e ∈ names) : names.get? e.1 = some e.2 := by
  induction names with
  | nil => simp at member
  | cons first rest ih =>
    obtain ⟨fresh, nodup⟩ := List.nodup_cons.mp nodup
    rw [get?_cons]
    rcases List.mem_cons.mp member with rfl | later
    · rw [if_pos rfl]
    · have different : first.1 ≠ e.1 := fun same => fresh (same ▸ List.mem_map_of_mem later)
      rw [if_neg different, ih nodup later]

theorem exists_get? {names : Named α} {name : String} (listed : name ∈ names.map Prod.fst) :
    ∃ a, names.get? name = some a := by
  induction names with
  | nil => simp at listed
  | cons e rest ih =>
    by_cases found : e.1 = name
    · exact ⟨e.2, by rw [get?_cons, if_pos found]⟩
    · rw [List.map_cons, List.mem_cons] at listed
      obtain ⟨a, later⟩ := ih (listed.resolve_left fun same => found same.symm)
      exact ⟨a, by rw [get?_cons, if_neg found, later]⟩

section Values

variable (f : α → β)

theorem get?_mapValues (names : Named α) (name : String) :
    get? (names.map fun e => (e.1, f e.2)) name = (names.get? name).map f := by
  induction names with
  | nil => rfl
  | cons e rest ih =>
    rw [List.map_cons, get?_cons, get?_cons, ih]
    by_cases found : e.1 = name <;> simp [found]

theorem set_mapValues (name : String) (a : α) (names : Named α) :
    (set name a names).map (fun e => (e.1, f e.2)) =
      set name (f a) (names.map fun e => (e.1, f e.2)) := by
  induction names with
  | nil => rfl
  | cons e rest ih =>
    by_cases found : e.1 = name
    · simp [set, found]
    · simp [set, found, ih]

theorem erase_mapValues (names : Named α) (name : String) :
    (erase names name).map (fun e => (e.1, f e.2)) =
      erase (names.map fun e => (e.1, f e.2)) name := by
  simp only [erase, List.filter_map]
  rfl

end Values

end Bindery.Named
