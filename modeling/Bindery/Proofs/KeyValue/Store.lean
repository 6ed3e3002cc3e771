import Bindery.KeyValue.Store
import Mathlib.Data.List.Pairwise

set_option autoImplicit false
set_option relaxedAutoImplicit false

/-!
Stores are ordered maps. Setting and removing a key change what is found under that key and under no
other, and keep the keys strictly ascending byte by byte, so a store lists its map: every pair that
is present, once, in the order of the keys.
-/

namespace Bindery.KeyValue

theorem before_iff {a b : Bytes} : before a b = true ↔ a < b := by
  induction a generalizing b with
  | nil => cases b <;> simp [before]
  | cons x xs ih => cases b <;> simp [before, ih, List.cons_lt_cons_iff]

structure Lists (es : List KeyEntry) (text : Bytes → Option Bytes) : Prop where
  ascending : es.Pairwise fun a b => a.1 < b.1
  mem_iff : ∀ e, e ∈ es ↔ text e.1 = some e.2

theorem Lists.unique {es fs : List KeyEntry} {text : Bytes → Option Bytes} (first : Lists es text)
    (second : Lists fs text) : es = fs := by
  have nodup : ∀ {gs : List KeyEntry}, gs.Pairwise (fun a b => a.1 < b.1) → gs.Nodup := by
    intro gs ascending
    refine ascending.imp ?_
    rintro a b less rfl
    exact List.lt_irrefl _ less
  have same : ∀ e, e ∈ es ↔ e ∈ fs := fun e => (first.mem_iff e).trans (second.mem_iff e).symm
  have permuted : es.Perm fs :=
    (List.perm_ext_iff_of_nodup (nodup first.ascending) (nodup second.ascending)).mpr same
  refine permuted.eq_of_pairwise ?_ first.ascending second.ascending
  intro a b _ _ less greater
  exact absurd (List.lt_trans less greater) (List.lt_irrefl _)

namespace Store

variable {store : Store} {key text : Bytes}

theorem get?_cons (e : KeyEntry) (rest : Store) (key : Bytes) :
    get? (e :: rest) key = if e.1 = key then some e.2 else get? rest key := by
  by_cases here : e.1 = key <;> simp [get?, here]

theorem get?_set (store : Store) (key text other : Bytes) :
    (store.set key text).get? other = if key = other then some text else store.get? other := by
  induction store with
  | nil => exact get?_cons (key, text) [] other
  | cons e rest ih =>
    by_cases here : e.1 = key
    · have replaced : set key text (e :: rest) = (key, text) :: rest := by simp [set, here]
      rw [replaced, get?_cons, get?_cons, here]
      split <;> rfl
    · by_cases less : before key e.1 = true
      · have placed : set key text (e :: rest) = (key, text) :: e :: rest := by
          simp [set, here, less]
        rw [placed, get?_cons]
      · have passed : set key text (e :: rest) = e :: set key text rest := by
          simp [set, here, less]
        rw [passed, get?_cons, get?_cons, ih]
        by_cases same : key = other
        · rw [if_pos same, if_pos same, if_neg (same ▸ here)]
        · rw [if_neg same, if_neg same]

theorem get?_delete (store : Store) (key other : Bytes) :
    (store.delete key).get? other = if key = other then none else store.get? other := by
  induction store with
  | nil => split <;> rfl
  | cons e rest ih =>
    by_cases here : e.1 = key
    · have skipped : delete (e :: rest) key = delete rest key := by simp [delete, here]
      rw [skipped, ih, get?_cons, here]
      split <;> rfl
    · have kept : delete (e :: rest) key = e :: delete rest key := by simp [delete, here]
      rw [kept, get?_cons, get?_cons, ih]
      by_cases same : key = other
      · rw [if_pos same, if_pos same, if_neg (same ▸ here)]
      · rw [if_neg same, if_neg same]

theorem mem_set {e : KeyEntry} (member : e ∈ store.set key text) : e ∈ store ∨ e = (key, text) := by
  induction store with
  | nil => exact Or.inr (List.mem_singleton.mp member)
  | cons first rest ih =>
    unfold set at member
    split at member
    · rcases List.mem_cons.mp member with new | old
      · exact Or.inr new
      · exact Or.inl (List.mem_cons_of_mem first old)
    · split at member
      · rcases List.mem_cons.mp member with new | old
        · exact Or.inr new
        · exact Or.inl old
      · rcases List.mem_cons.mp member with rfl | later
        · exact Or.inl List.mem_cons_self
        · rcases ih later with old | new
          · exact Or.inl (List.mem_cons_of_mem first old)
          · exact Or.inr new

/-- A key is set at its place: behind all smaller ones and before all greater ones. -/
theorem pairwise_set (key text : Bytes) (ascending : store.Pairwise fun a b => a.1 < b.1) :
    (store.set key text).Pairwise fun a b => a.1 < b.1 := by
  induction store with
  | nil => exact List.pairwise_singleton _ _
  | cons first rest ih =>
    obtain ⟨below, ascending⟩ := List.pairwise_cons.mp ascending
    unfold set
    by_cases here : first.1 = key
    · rw [if_pos (beq_iff_eq.mpr here)]
      exact List.pairwise_cons.mpr ⟨fun e later => here ▸ below e later, ascending⟩
    · rw [if_neg (by simpa using here)]
      by_cases less : before key first.1 = true
      · have smaller : key < first.1 := before_iff.mp less
        rw [if_pos less]
        refine List.pairwise_cons.mpr ⟨?_, List.pairwise_cons.mpr ⟨below, ascending⟩⟩
        intro e member
        rcases List.mem_cons.mp member with rfl | later
        · exact smaller
        · exact List.lt_trans smaller (below e later)
      · have greater : first.1 < key :=
          Std.lt_of_le_of_ne (fun smaller => less (before_iff.mpr smaller)) here
        rw [if_neg less]
        refine List.pairwise_cons.mpr ⟨?_, ih ascending⟩
        intro e member
        rcases mem_set member with old | rfl
        · exact below e old
        · exact greater

theorem get?_eq_some_iff (ascending : store.Pairwise fun a b => a.1 < b.1) (e : KeyEntry) :
    e ∈ store ↔ store.get? e.1 = some e.2 := by
  induction store with
  | nil => simp [get?]
  | cons first rest ih =>
    obtain ⟨below, ascending⟩ := List.pairwise_cons.mp ascending
    rw [get?_cons, List.mem_cons]
    by_cases here : first.1 = e.1
    · have absent : e ∉ rest := fun later => List.lt_irrefl _ (here ▸ below e later)
      rw [if_pos here]
      constructor
      · rintro (rfl | later)
        · rfl
        · exact absurd later absent
      · intro same
        exact Or.inl (Prod.ext here.symm (Option.some.inj same).symm)
    · rw [if_neg here, ← ih ascending]
      constructor
      · rintro (rfl | later)
        · exact absurd rfl here
        · exact later
      · exact Or.inr

theorem pairwise_delete (key : Bytes) (ascending : store.Pairwise fun a b => a.1 < b.1) :
    (store.delete key).Pairwise fun a b => a.1 < b.1 :=
  ascending.sublist List.filter_sublist

end Store

namespace Lists

variable {store : Store} {found : Bytes → Option Bytes}

theorem nil : Lists [] fun _ => none := by
  constructor
  · exact List.Pairwise.nil
  · intro e
    simp

theorem get?_eq (lists : Lists store found) (key : Bytes) : store.get? key = found key := by
  apply Option.ext
  intro text
  rw [← lists.mem_iff (key, text), Store.get?_eq_some_iff lists.ascending (key, text)]

theorem set (lists : Lists store found) (key text : Bytes) :
    Lists (store.set key text) fun other => if key = other then some text else found other := by
  have ascending := Store.pairwise_set key text lists.ascending
  refine ⟨ascending, fun e => ?_⟩
  rw [Store.get?_eq_some_iff ascending, Store.get?_set, lists.get?_eq]

theorem delete (lists : Lists store found) (key : Bytes) :
    Lists (store.delete key) fun other => if key = other then none else found other := by
  have ascending := Store.pairwise_delete key lists.ascending
  refine ⟨ascending, fun e => ?_⟩
  rw [Store.get?_eq_some_iff ascending, Store.get?_delete, lists.get?_eq]

end Lists

end Bindery.KeyValue
