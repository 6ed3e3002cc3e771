import Bindery.Proofs.Validity.Arranged

set_option autoImplicit false
set_option relaxedAutoImplicit false

/-!
The layout order is the least one. At each step the smallest struct that is ready is placed, and in
any other order with the same beginning the next struct is ready too, so it is not smaller. Main
statement: there is a layout order exactly if no struct contains itself, and the one that is found
is the first of all layout orders in the order of dictionaries.
-/

namespace Bindery.LayoutOrder

variable {graph : Graph} {placed out other : List Nat}

theorem isReady_iff {i : Nat} :
    isReady graph placed i = true ↔ i ∉ placed ∧ ∀ d, Needs graph i d → d ∈ placed := by
  simp [isReady, Needs]

/-- Nothing that is smaller than the struct to place next is ready. -/
theorem next?_le {i j : Nat} (next : next? graph placed = some i)
    (ready : isReady graph placed j = true) : i ≤ j := by
  unfold next? at next
  obtain ⟨-, k, bound, here, earlier⟩ := List.find?_eq_some_iff_getElem.mp next
  rw [List.getElem_range] at here
  subst here
  by_contra smaller
  have refused := earlier j (by omega)
  rw [List.getElem_range, ready] at refused
  exact absurd refused (by decide)

theorem Orderly.ready_after {i : Nat} {rest : List Nat}
    (orderly : Orderly graph (placed ++ i :: rest)) : isReady graph placed i = true := by
  have fresh : i ∉ placed := by
    intro again
    exact (List.nodup_append.mp orderly.nodup).2.2 i again i List.mem_cons_self rfl
  exact isReady_iff.mpr ⟨fresh, orderly.supplied placed i rest rfl⟩

theorem arrange_extends {remaining : Nat} (done : arrange graph remaining placed = .ok out) :
    placed <+: out := by
  induction remaining generalizing placed with
  | zero =>
    obtain rfl : placed = out := by simpa [arrange] using done
    exact List.prefix_refl placed
  | succ remaining ih =>
    cases next : next? graph placed with
    | none => simp [arrange, next] at done
    | some i =>
      simp only [arrange, next] at done
      exact (List.prefix_append placed [i]).trans (ih done)

/-- Of all orders that go on from the structs placed so far, a run of placements finds the first
one. -/
theorem arrange_least {remaining : Nat} (done : arrange graph remaining placed = .ok out)
    (orderly : Orderly graph other) (begins : placed <+: other)
    (length : other.length = placed.length + remaining) : out = other ∨ out < other := by
  induction remaining generalizing placed with
  | zero =>
    obtain rfl : placed = out := by simpa [arrange] using done
    exact .inl (begins.eq_of_length (by omega))
  | succ remaining ih =>
    obtain ⟨tail, rfl⟩ := begins
    obtain ⟨j, rest, rfl⟩ : ∃ j rest, tail = j :: rest := by
      refine List.exists_cons_of_ne_nil ?_
      rintro rfl
      simp at length
    cases next : next? graph placed with
    | none => simp [arrange, next] at done
    | some i =>
      simp only [arrange, next] at done
      have least := next?_le next orderly.ready_after
      rcases Nat.lt_or_eq_of_le least with smaller | rfl
      · -- The two orders part here.
        obtain ⟨later, rfl⟩ := arrange_extends done
        right
        rw [List.append_assoc]
        exact List.append_left_lt (List.cons_lt_cons_iff.mpr (.inl smaller))
      · apply ih done
        · exact ⟨rest, by simp⟩
        · simp only [List.length_append, List.length_cons, List.length_nil] at length ⊢
          omega

end Bindery.LayoutOrder

namespace Bindery.Items

/-- Every struct is listed once, after all structs that it contains. -/
structure IsLayoutOrder (items : Items) (order : List Nat) : Prop where
  complete : order.Perm (List.range items.structs.length)
  contained : EachAfter (fun before i => ∀ d, items.Contains i d → d ∈ before) order

theorem length_layoutGraph (items : Items) : items.layoutGraph.length = items.structs.length := by
  simp [layoutGraph]

theorem orderly_iff_isLayoutOrder {items : Items} {order : List Nat} :
    LayoutOrder.Orderly items.layoutGraph order ∧ order.length = items.structs.length ↔
      items.IsLayoutOrder order := by
  constructor
  · rintro ⟨orderly, length⟩
    refine ⟨?_, ?_⟩
    · have complete := orderly.perm_range (length.trans (length_layoutGraph items).symm)
      rwa [length_layoutGraph] at complete
    · have supplied := orderly.supplied
      rwa [needs_layoutGraph] at supplied
  · rintro ⟨complete, contained⟩
    refine ⟨⟨?_, ?_, ?_⟩, ?_⟩
    · exact complete.nodup_iff.mpr List.nodup_range
    · rw [length_layoutGraph]
      exact bounded_of_perm_range complete
    · rwa [needs_layoutGraph]
    · simpa using complete.length_eq

theorem isLayoutOrder_of_layoutOrder {items : Items} {order : List Nat}
    (found : items.layoutOrder = .ok order) : items.IsLayoutOrder order := by
  have complete := layoutOrder_perm found
  have orderly := (LayoutOrder.order_ok (layoutOrder_ok found)).1
  exact orderly_iff_isLayoutOrder.mp ⟨orderly, by simpa using complete.length_eq⟩

theorem layoutOrder_le {items : Items} {order other : List Nat}
    (found : items.layoutOrder = .ok order) (valid : items.IsLayoutOrder other) :
    order = other ∨ order < other := by
  obtain ⟨orderly, length⟩ := orderly_iff_isLayoutOrder.mpr valid
  have run : LayoutOrder.arrange items.layoutGraph items.layoutGraph.length [] = .ok order := by
    have outcome := layoutOrder_ok found
    unfold LayoutOrder.order at outcome
    split at outcome
    · rename_i placed done
      obtain rfl : placed = order := by simpa using outcome
      exact done
    · simp at outcome
  refine LayoutOrder.arrange_least run orderly List.nil_prefix ?_
  rw [List.length_nil, length_layoutGraph]
  omega

theorem not_lt_range {order : List Nat} {n : Nat} (complete : order.Perm (List.range n)) :
    ¬ order < List.range n := by
  have length : order.length = n := by simpa using complete.length_eq
  have nodup : order.Nodup := complete.nodup_iff.mpr List.nodup_range
  intro smaller
  rcases List.lt_iff_exists.mp smaller with ⟨-, short⟩ | ⟨k, inside, _, same, below⟩
  · rw [List.length_range] at short
    omega
  · rw [List.getElem_range] at below
    -- The smaller number has been listed at its own place already.
    have earlier : order[order[k]] = order[k] := by
      simpa using same order[k] below
    have again := (nodup.getElem_inj_iff).mp earlier
    omega

/-- There is a layout order exactly if no struct contains itself; the order that is found comes
before all others, and structs that are in order already stay where they are. -/
theorem layoutOrder_least (items : Items) :
    ((∃ order, items.layoutOrder = .ok order) ↔ ∀ i, ¬ items.ContainsItself i) ∧
    ∀ order, items.layoutOrder = .ok order →
      items.IsLayoutOrder order ∧
      (∀ other, items.IsLayoutOrder other → order = other ∨ order < other) ∧
      (items.IsLayoutOrder (List.range items.structs.length) →
        order = List.range items.structs.length) := by
  refine ⟨⟨?_, ?_⟩, ?_⟩
  · rintro ⟨order, found⟩ i
    exact not_containsItself_of_layoutOrder found i
  · intro acyclic
    cases outcome : items.layoutOrder with
    | ok order => exact ⟨order, rfl⟩
    | error name =>
      obtain ⟨i, -, -, -, cycle⟩ := containsItself_of_layoutOrder_error outcome
      exact absurd cycle (acyclic i)
  · intro order found
    refine ⟨isLayoutOrder_of_layoutOrder found, fun other => layoutOrder_le found, ?_⟩
    intro sorted
    exact (layoutOrder_le found sorted).resolve_right (not_lt_range (layoutOrder_perm found))

def outerFirst : Items where
  structs := [
    { name := "outer", fields := [{ name := "inner", ty := .array (.named "inner") 2 }] },
    { name := "free" },
    { name := "inner", fields := [{ name := "leaf", ty := .named "leaf" }] },
    { name := "leaf" },
    { name := "leaf", fields := [{ name := "whole", ty := .named "outer" }] }]

theorem outerFirst_least :
    outerFirst.layoutOrder = .ok [1, 3, 2, 0, 4] ∧ outerFirst.IsLayoutOrder [1, 3, 2, 0, 4] ∧
      ∀ other, outerFirst.IsLayoutOrder other →
        [1, 3, 2, 0, 4] = other ∨ [1, 3, 2, 0, 4] < other := by
  have found : outerFirst.layoutOrder = .ok [1, 3, 2, 0, 4] := by decide
  obtain ⟨valid, least, -⟩ := (layoutOrder_least outerFirst).2 _ found
  exact ⟨found, valid, least⟩

end Bindery.Items
