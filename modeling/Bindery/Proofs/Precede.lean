import Mathlib.Data.List.Basic

set_option autoImplicit false
set_option relaxedAutoImplicit false

/-!
Lists in which each entry finds what it needs among the entries before it.
-/

namespace Bindery

variable {α : Type} {P Q : List α → α → Prop} {first second : List α} {a : α}

/-- Each entry of a list is as it should be, given the entries before it. -/
def EachAfter (P : List α → α → Prop) (entries : List α) : Prop :=
  ∀ before a after, entries = before ++ a :: after → P before a

namespace EachAfter

theorem nil : EachAfter P [] := by
  intro before a after split
  simp at split

theorem append (initial : EachAfter P first)
    (final : EachAfter (fun before a => P (first ++ before) a) second) :
    EachAfter P (first ++ second) := by
  intro before a after split
  rcases List.append_eq_append_iff.mp split with ⟨middle, rfl, rest⟩ | ⟨middle, whole, rest⟩
  · exact final middle a after rest
  · -- The entry is in the first list, unless the first list ends right before it.
    cases middle with
    | nil =>
      obtain rfl : first = before := by simpa using whole
      have split' : second = [] ++ a :: after := by simpa using rest.symm
      simpa using final [] a after split'
    | cons b middle =>
      obtain ⟨rfl, -⟩ : a = b ∧ after = middle ++ second := by simpa using rest
      exact initial before a middle whole

theorem concat (initial : EachAfter P first) (last : P first a) : EachAfter P (first ++ [a]) := by
  refine initial.append ?_
  intro before b after split
  obtain ⟨rfl, rfl, rfl⟩ : before = [] ∧ b = a ∧ after = [] := by
    cases before <;> simp_all
  simpa using last

theorem mono (each : EachAfter P first)
    (weaker : ∀ before ⊆ first, ∀ a ∈ first, P before a → Q before a) : EachAfter Q first := by
  intro before a after split
  have within : before ⊆ first := split ▸ List.subset_append_left before (a :: after)
  exact weaker before within a (by simp [split]) (each before a after split)

theorem of_forall (all : ∀ before, ∀ a ∈ first, P before a) : EachAfter P first := by
  intro before a after split
  exact all before a (by simp [split])

theorem of_subset (all : ∀ before ⊆ first, ∀ a ∈ first, P before a) : EachAfter P first := by
  intro before a after split
  have within : before ⊆ first := split ▸ List.subset_append_left before (a :: after)
  exact all before within a (by simp [split])

theorem flatMap {β : Type} {f : β → List α} {bs : List β}
    (grows : ∀ before more a, P before a → P (more ++ before) a)
    (each : ∀ b ∈ bs, EachAfter P (f b)) : EachAfter P (bs.flatMap f) := by
  induction bs with
  | nil => exact nil
  | cons b bs ih =>
    have rest := ih fun b member => each b (List.mem_cons_of_mem _ member)
    rw [List.flatMap_cons]
    exact (each b List.mem_cons_self).append
      (rest.mono fun before _ a _ => grows before (f b) a)

theorem map {β : Type} {f : α → β} {R : List β → β → Prop}
    (each : EachAfter (fun before a => R (before.map f) (f a)) first) :
    EachAfter R (first.map f) := by
  intro before b after split
  obtain ⟨start, rest, rfl, rfl, tail⟩ := List.map_eq_append_iff.mp split
  obtain ⟨a, rest, rfl, rfl, rfl⟩ := List.map_eq_cons_iff.mp tail
  exact each start a rest rfl

theorem append_iff : EachAfter P (first ++ second) ↔
    EachAfter P first ∧ EachAfter (fun before a => P (first ++ before) a) second := by
  constructor
  · intro each
    constructor
    · intro before a after split
      exact each before a (after ++ second) (by simp [split])
    · intro before a after split
      exact each (first ++ before) a after (by simp [split])
  · rintro ⟨initial, final⟩
    exact initial.append final

theorem map_iff {β : Type} {f : α → β} {R : List β → β → Prop} :
    EachAfter R (first.map f) ↔ EachAfter (fun before a => R (before.map f) (f a)) first := by
  constructor
  · intro each before a after split
    exact each (before.map f) (f a) (after.map f) (by simp [split])
  · exact map

theorem congr (same : ∀ before ⊆ first, ∀ a ∈ first, P before a ↔ Q before a) :
    EachAfter P first ↔ EachAfter Q first :=
  ⟨fun each => each.mono fun before within a member => (same before within a member).mp,
    fun each => each.mono fun before within a member => (same before within a member).mpr⟩

theorem forall_iff {S : α → Prop} : EachAfter (fun _ a => S a) first ↔ ∀ a ∈ first, S a := by
  constructor
  · intro each a member
    obtain ⟨before, after, split⟩ := List.append_of_mem member
    exact each before a after split
  · intro all
    exact of_forall fun _ => all

end EachAfter

end Bindery
