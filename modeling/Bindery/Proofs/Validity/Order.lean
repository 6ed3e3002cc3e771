import Bindery.Proofs.Precede
import Bindery.Validity.LayoutOrder
import Mathlib.Data.List.Basic
import Mathlib.Data.List.Nodup
import Mathlib.Data.List.Perm.Subperm
import Mathlib.Logic.Relation

set_option autoImplicit false
set_option relaxedAutoImplicit false

/-!
What the layout order is. A run of placements only ever adds a struct after everything it needs, so
a run that places all structs gives an order, and one that gets stuck leaves structs that all wait
for one another. Following who waits for whom then comes back to where it has been.
-/

namespace Bindery.LayoutOrder

def Needs (graph : Graph) (i d : Nat) : Prop := d ∈ needs graph i

def OnCycle (graph : Graph) (i : Nat) : Prop := Relation.TransGen (Needs graph) i i

/-- Whether needs stay among the structs of the graph. -/
def Closed (graph : Graph) : Prop := ∀ i d, Needs graph i d → d < graph.length

/-- Structs of the graph placed one after the other, each once and after all it needs. -/
structure Orderly (graph : Graph) (placed : List Nat) : Prop where
  nodup : placed.Nodup
  bounded : ∀ i ∈ placed, i < graph.length
  supplied : EachAfter (fun before i => ∀ d, Needs graph i d → d ∈ before) placed

theorem lt_of_needs {graph : Graph} {i d : Nat} (edge : Needs graph i d) : i < graph.length := by
  by_contra outside
  have beyond : graph[i]? = none := List.getElem?_eq_none (by omega)
  simp [Needs, needs, beyond] at edge

theorem Orderly.nil (graph : Graph) : Orderly graph [] :=
  ⟨List.nodup_nil, by simp, .nil⟩

theorem Orderly.concat {graph : Graph} {placed : List Nat}
    (orderly : Orderly graph placed) {i : Nat}
    (inside : i < graph.length) (ready : isReady graph placed i = true) :
    Orderly graph (placed ++ [i]) := by
  obtain ⟨fresh, supplied⟩ : i ∉ placed ∧ ∀ d ∈ needs graph i, d ∈ placed := by
    simpa [isReady] using ready
  refine ⟨?_, ?_, ?_⟩
  · exact List.nodup_append.mpr ⟨orderly.nodup, List.nodup_singleton i, by
      intro a old b new same
      exact fresh (List.mem_singleton.mp new ▸ same ▸ old)⟩
  · intro j member
    rcases List.mem_append.mp member with old | new
    · exact orderly.bounded j old
    · exact List.mem_singleton.mp new ▸ inside
  · exact orderly.supplied.concat supplied

theorem next?_ready {graph : Graph} {placed : List Nat} {i : Nat}
    (next : next? graph placed = some i) :
    i < graph.length ∧ isReady graph placed i = true :=
  ⟨List.mem_range.mp (List.mem_of_find?_eq_some next), List.find?_some next⟩

theorem arrange_ok {graph : Graph} {remaining : Nat} {placed out : List Nat}
    (orderly : Orderly graph placed) (done : arrange graph remaining placed = .ok out) :
    Orderly graph out ∧ out.length = placed.length + remaining := by
  induction remaining generalizing placed with
  | zero =>
    obtain rfl : placed = out := by simpa [arrange] using done
    exact ⟨orderly, rfl⟩
  | succ remaining ih =>
    cases next : next? graph placed with
    | none => simp [arrange, next] at done
    | some i =>
      obtain ⟨inside, ready⟩ := next?_ready next
      simp only [arrange, next] at done
      obtain ⟨after, length⟩ := ih (orderly.concat inside ready) done
      refine ⟨after, ?_⟩
      simp only [List.length_append, List.length_singleton] at length
      omega

theorem arrange_error {graph : Graph} {remaining : Nat} {placed stuck : List Nat}
    (orderly : Orderly graph placed) (failed : arrange graph remaining placed = .error stuck) :
    Orderly graph stuck ∧ next? graph stuck = none ∧ stuck.length < placed.length + remaining := by
  induction remaining generalizing placed with
  | zero => simp [arrange] at failed
  | succ remaining ih =>
    cases next : next? graph placed with
    | none =>
      obtain rfl : placed = stuck := by simpa [arrange, next] using failed
      exact ⟨orderly, next, by omega⟩
    | some i =>
      obtain ⟨inside, ready⟩ := next?_ready next
      simp only [arrange, next] at failed
      obtain ⟨after, none, length⟩ := ih (orderly.concat inside ready) failed
      refine ⟨after, none, ?_⟩
      simp only [List.length_append, List.length_singleton] at length
      omega

theorem Orderly.perm_range {graph : Graph} {placed : List Nat} (orderly : Orderly graph placed)
    (full : placed.length = graph.length) : placed.Perm (List.range graph.length) := by
  have part : placed ⊆ List.range graph.length :=
    fun i member => List.mem_range.mpr (orderly.bounded i member)
  exact (orderly.nodup.subperm part).perm_of_length_le (by simp [full])

theorem Orderly.idxOf_lt {graph : Graph} {placed : List Nat} (orderly : Orderly graph placed)
    {i d : Nat} (member : i ∈ placed) (edge : Needs graph i d) :
    d ∈ placed ∧ placed.idxOf d < placed.idxOf i := by
  obtain ⟨before, after, split⟩ := List.append_of_mem member
  have earlier := orderly.supplied before i after split d edge
  have distinct : i ∉ before := by
    have nodup := orderly.nodup
    rw [split] at nodup
    intro again
    exact (List.nodup_append.mp nodup).2.2 i again i List.mem_cons_self rfl
  rw [split]
  refine ⟨List.mem_append_left _ earlier, ?_⟩
  rw [List.idxOf_append_of_mem earlier, List.idxOf_append_of_notMem distinct]
  exact Nat.lt_add_right _ (List.idxOf_lt_length_of_mem earlier)

/-- No struct of an order needs itself: along a chain of needs the place in the order goes down. -/
theorem Orderly.not_onCycle {graph : Graph} {placed : List Nat} (orderly : Orderly graph placed)
    {i : Nat} (member : i ∈ placed) : ¬ OnCycle graph i := by
  have descends : ∀ d, Relation.TransGen (Needs graph) i d →
      d ∈ placed ∧ placed.idxOf d < placed.idxOf i := by
    intro d chain
    induction chain with
    | single edge => exact orderly.idxOf_lt member edge
    | tail _ edge ih =>
      obtain ⟨within, lower⟩ := orderly.idxOf_lt ih.1 edge
      exact ⟨within, Nat.lt_trans lower ih.2⟩
  intro cycle
  exact Nat.lt_irrefl _ (descends i cycle).2

/-- When nothing can be added, everything that is not placed waits for something that is not placed
either. -/
theorem waiting_of_next?_eq_none {graph : Graph} {placed : List Nat}
    (stuck : next? graph placed = none) {i : Nat} (inside : i < graph.length)
    (absent : i ∉ placed) :
    ∃ d, (needs graph i).find? (fun d => !placed.contains d) = some d := by
  have unready := List.find?_eq_none.mp stuck i (List.mem_range.mpr inside)
  have waits : ∃ d ∈ needs graph i, d ∉ placed := by
    simpa [isReady, absent] using unready
  obtain ⟨d, needed, missing⟩ := waits
  exact Option.isSome_iff_exists.mp (List.find?_isSome.mpr ⟨d, needed, by simpa using missing⟩)

/-- A walk from struct to struct, each time to the first need that is not placed, beside the structs
that it has seen. It ends at a struct that it has seen and nowhere else, and all that it looks up on
its way are structs of the graph. -/
inductive Walk (graph : Graph) (placed : List Nat) : (seen : List Nat) → (i last : Nat) → Prop where
  | back {seen : List Nat} {i : Nat} (inside : i < graph.length) (again : i ∈ seen) :
    Walk graph placed seen i i
  | onward {seen : List Nat} {i d last : Nat} (inside : i < graph.length) (fresh : i ∉ seen)
    (bounded : ∀ e ∈ needs graph i, e < graph.length)
    (waits : (needs graph i).find? (fun e => !placed.contains e) = some d)
    (rest : Walk graph placed (i :: seen) d last) : Walk graph placed seen i last

/-- Following needs from a struct that is not placed is a walk. It comes to its end because there
are only so many structs to see. -/
theorem follow_walk {graph : Graph} {placed : List Nat} (closed : Closed graph)
    (stuck : next? graph placed = none) (steps : Nat) (seen : List Nat) (i : Nat)
    (inside : i < graph.length) (absent : i ∉ placed) (nodup : seen.Nodup)
    (bounded : ∀ s ∈ seen, s < graph.length) (enough : graph.length < steps + seen.length) :
    Walk graph placed seen i (follow graph placed steps seen i) := by
  induction steps generalizing seen i with
  | zero =>
    have part : seen ⊆ List.range graph.length :=
      fun s member => List.mem_range.mpr (bounded s member)
    have few := (nodup.subperm part).length_le
    rw [List.length_range] at few
    omega
  | succ steps ih =>
    by_cases again : i ∈ seen
    · have returned : follow graph placed (steps + 1) seen i = i := by simp [follow, again]
      rw [returned]
      exact .back inside again
    · obtain ⟨d, found⟩ := waiting_of_next?_eq_none stuck inside absent
      have missing : d ∉ placed := by simpa using List.find?_some found
      have walked : follow graph placed (steps + 1) seen i =
          follow graph placed steps (i :: seen) d := by
        have unseen : seen.contains i = false := by simpa using again
        simp only [follow, unseen, found]
        rfl
      rw [walked]
      refine .onward inside again (closed i) found ?_
      apply ih
      · exact closed i d (List.mem_of_find?_eq_some found)
      · exact missing
      · exact List.nodup_cons.mpr ⟨again, nodup⟩
      · intro s member
        rcases List.mem_cons.mp member with rfl | old
        · exact inside
        · exact bounded s old
      · rw [List.length_cons]
        omega

theorem Walk.last_eq {graph : Graph} {placed seen : List Nat} {i last other : Nat}
    (walk : Walk graph placed seen i last) (again : Walk graph placed seen i other) :
      last = other := by
  induction walk with
  | back _ seenBefore =>
    cases again with
    | back => rfl
    | onward _ fresh => exact absurd seenBefore fresh
  | onward _ fresh _ waits _ ih =>
    cases again with
    | back _ seenBefore => exact absurd seenBefore fresh
    | onward _ _ _ waitsToo rest =>
      obtain rfl := Option.some.inj (waits.symm.trans waitsToo)
      exact ih rest

/-- The structs that a walk has seen all lead to where it is, so the struct which comes up again
needs itself. -/
theorem Walk.onCycle {graph : Graph} {placed seen : List Nat} {i last : Nat}
    (walk : Walk graph placed seen i last)
    (leads : ∀ s ∈ seen, Relation.TransGen (Needs graph) s i) : OnCycle graph last := by
  induction walk with
  | back _ again => exact leads _ again
  | @onward seen i d last _ _ _ waits _ ih =>
    have edge : Needs graph i d := List.mem_of_find?_eq_some waits
    apply ih
    intro s member
    rcases List.mem_cons.mp member with rfl | old
    · exact Relation.TransGen.single edge
    · exact (leads s old).tail edge

/-- When nothing can be added and something is left, there is a first struct that is not placed,
from which a walk leads to the struct that is found. -/
theorem onCycle_walk {graph : Graph} {placed : List Nat} (closed : Closed graph)
    (stuck : next? graph placed = none) (short : placed.length < graph.length) :
    ∃ start, (List.range graph.length).find? (fun i => !placed.contains i) = some start ∧
      Walk graph placed [] start (onCycle graph placed) := by
  have left : ∃ i < graph.length, i ∉ placed := by
    by_contra none
    push Not at none
    have all : List.range graph.length ⊆ placed := fun i member => none i (List.mem_range.mp member)
    have few := (List.nodup_range.subperm all).length_le
    rw [List.length_range] at few
    omega
  obtain ⟨i, inside, absent⟩ := left
  obtain ⟨start, found⟩ := Option.isSome_iff_exists.mp
    (List.find?_isSome.mpr ⟨i, List.mem_range.mpr inside, by simpa using absent⟩ :
      ((List.range graph.length).find? fun i => !placed.contains i).isSome)
  have first : start < graph.length := List.mem_range.mp (List.mem_of_find?_eq_some found)
  have missing : start ∉ placed := by simpa using List.find?_some found
  refine ⟨start, found, ?_⟩
  rw [LayoutOrder.onCycle, found, Option.getD_some]
  exact follow_walk closed stuck _ [] start first missing List.nodup_nil (by simp) (by simp)

theorem order_ok {graph : Graph} {out : List Nat} (found : order graph = .ok out) :
    Orderly graph out ∧ out.Perm (List.range graph.length) := by
  unfold order at found
  split at found
  · rename_i placed done
    obtain rfl : placed = out := by simpa using found
    obtain ⟨orderly, length⟩ := arrange_ok (Orderly.nil graph) done
    exact ⟨orderly, orderly.perm_range (by simpa using length)⟩
  · simp at found

theorem order_error {graph : Graph} (closed : Closed graph) {i : Nat}
    (failed : order graph = .error i) :
    ∃ placed start, arrange graph graph.length [] = .error placed ∧
      (List.range graph.length).find? (fun j => !placed.contains j) = some start ∧
      i = onCycle graph placed ∧ Walk graph placed [] start i := by
  unfold order at failed
  split at failed
  · simp at failed
  · rename_i placed stopped
    obtain rfl : onCycle graph placed = i := by simpa using failed
    obtain ⟨-, stuck, short⟩ := arrange_error (Orderly.nil graph) stopped
    obtain ⟨start, first, walk⟩ := onCycle_walk closed stuck (by simpa using short)
    exact ⟨placed, start, stopped, first, rfl, walk⟩

theorem order_ok_acyclic {graph : Graph} {out : List Nat}
    (found : order graph = .ok out) (i : Nat) :
    ¬ OnCycle graph i := by
  obtain ⟨orderly, perm⟩ := order_ok found
  intro cycle
  have inside : i < graph.length := by
    obtain ⟨d, edge, -⟩ := Relation.TransGen.head'_iff.mp cycle
    exact lt_of_needs edge
  exact orderly.not_onCycle (perm.mem_iff.mpr (List.mem_range.mpr inside)) cycle

end Bindery.LayoutOrder

namespace Bindery.Items

def IsFirst (items : Items) (name : String) (d : Nat) : Prop :=
  (∃ s, items.structs[d]? = some s ∧ s.name = name) ∧
    ∀ j < d, ∀ s, items.structs[j]? = some s → s.name ≠ name

/-- A struct has a field in which the first struct of some name is contained by value. -/
def Contains (items : Items) (i d : Nat) : Prop :=
  ∃ s, items.structs[i]? = some s ∧
    ∃ f ∈ s.fields, ∃ name, f.ty.byValueName = some name ∧ items.IsFirst name d

/-- A struct contains itself by value through a chain of structs. -/
def ContainsItself (items : Items) (i : Nat) : Prop := Relation.TransGen items.Contains i i

theorem structIndex?_eq_some_iff {items : Items} {name : String} {d : Nat} :
    items.structIndex? name = some d ↔ items.IsFirst name d := by
  rw [structIndex?, List.findIdx?_eq_some_iff_getElem, IsFirst]
  constructor
  · rintro ⟨inside, here, earlier⟩
    refine ⟨⟨items.structs[d], List.getElem?_eq_getElem inside, by simpa using here⟩, ?_⟩
    intro j before s found
    obtain ⟨_, rfl⟩ := List.getElem?_eq_some_iff.mp found
    simpa using earlier j before
  · rintro ⟨⟨s, found, named⟩, earlier⟩
    obtain ⟨inside, rfl⟩ := List.getElem?_eq_some_iff.mp found
    refine ⟨inside, by simpa using named, ?_⟩
    intro j before
    simpa using earlier j before _ (List.getElem?_eq_getElem _)

theorem IsFirst.lt {items : Items} {name : String} {d : Nat} (first : items.IsFirst name d) :
    d < items.structs.length := by
  obtain ⟨s, found, -⟩ := first.1
  exact (List.getElem?_eq_some_iff.mp found).1

theorem needs_layoutGraph (items : Items) :
    LayoutOrder.Needs items.layoutGraph = items.Contains := by
  funext i d
  apply propext
  rw [LayoutOrder.Needs, LayoutOrder.needs, layoutGraph, List.getElem?_map, Contains]
  cases found : items.structs[i]? with
  | none => simp
  | some s =>
    simp only [Option.map_some, Option.getD_some, containedIn, List.mem_filter, List.mem_range,
      List.contains_iff_mem, List.mem_filterMap, Option.some.injEq, exists_eq_left']
    constructor
    · rintro ⟨-, name, ⟨f, member, named⟩, index⟩
      exact ⟨f, member, name, named, structIndex?_eq_some_iff.mp index⟩
    · rintro ⟨f, member, name, named, first⟩
      exact ⟨first.lt, name, ⟨f, member, named⟩, structIndex?_eq_some_iff.mpr first⟩

theorem closed_layoutGraph (items : Items) : LayoutOrder.Closed items.layoutGraph := by
  intro i d edge
  rw [needs_layoutGraph] at edge
  obtain ⟨s, -, f, -, name, -, first⟩ := edge
  rw [layoutGraph, List.length_map]
  exact first.lt

theorem layoutOrder_ok {items : Items} {order : List Nat} (found : items.layoutOrder = .ok order) :
    LayoutOrder.order items.layoutGraph = .ok order := by
  unfold layoutOrder at found
  split at found
  · rename_i placed done
    rw [done]
    simpa using found
  · simp at found

theorem not_containsItself_of_layoutOrder {items : Items} {order : List Nat}
    (found : items.layoutOrder = .ok order) (i : Nat) : ¬ items.ContainsItself i := by
  have acyclic := LayoutOrder.order_ok_acyclic (layoutOrder_ok found) i
  rwa [LayoutOrder.OnCycle, needs_layoutGraph] at acyclic

theorem layoutOrder_error {items : Items} {name : String}
    (failed : items.layoutOrder = .error name) :
    ∃ i s, LayoutOrder.order items.layoutGraph = .error i ∧ items.structs[i]? = some s ∧
      s.name = name ∧ items.ContainsItself i := by
  unfold layoutOrder at failed
  split at failed
  · simp at failed
  · rename_i i stopped
    obtain ⟨placed, start, -, -, -, walk⟩ :=
      LayoutOrder.order_error (closed_layoutGraph items) stopped
    have cycle := walk.onCycle (by simp)
    rw [LayoutOrder.OnCycle, needs_layoutGraph] at cycle
    obtain ⟨d, ⟨s, found, -⟩, -⟩ := Relation.TransGen.head'_iff.mp cycle
    refine ⟨i, s, stopped, found, ?_, cycle⟩
    simpa [found] using failed

theorem containsItself_of_layoutOrder_error {items : Items} {name : String}
    (failed : items.layoutOrder = .error name) :
    ∃ i s, items.structs[i]? = some s ∧ s.name = name ∧ items.ContainsItself i := by
  obtain ⟨i, s, -, found, named, cycle⟩ := layoutOrder_error failed
  exact ⟨i, s, found, named, cycle⟩

/-- If there is no layout order, the name that is reported is that of a struct which contains
itself. When the placements are stuck, there is a first struct that is not placed, and the only walk
from there ends at the struct that is reported. -/
theorem reported_cycle_walked {items : Items} {name : String}
    (failed : items.layoutOrder = .error name) :
    ∃ placed start i s,
      LayoutOrder.arrange items.layoutGraph items.layoutGraph.length [] = .error placed ∧
      (List.range items.layoutGraph.length).find? (fun j => !placed.contains j) = some start ∧
      i = LayoutOrder.onCycle items.layoutGraph placed ∧
      (∀ last, LayoutOrder.Walk items.layoutGraph placed [] start last ↔ last = i) ∧
      items.structs[i]? = some s ∧ s.name = name ∧ items.ContainsItself i := by
  obtain ⟨i, s, stopped, found, named, cycle⟩ := layoutOrder_error failed
  obtain ⟨placed, start, stuck, first, computed, walk⟩ :=
    LayoutOrder.order_error (closed_layoutGraph items) stopped
  refine ⟨placed, start, i, s, stuck, first, computed,
    fun last => ⟨fun other => ?_, ?_⟩, found, named, cycle⟩
  · exact other.last_eq walk
  · rintro rfl
    exact walk

def leadIn : Items where
  structs := [
    { name := "free" },
    { name := "lead", fields := [{ name := "t", ty := .named "t" }] },
    { name := "s"
      fields := [{ name := "free", ty := .named "free" }, { name := "t", ty := .named "t" }] },
    { name := "t", fields := [{ name := "s", ty := .array (.named "s") 2 }] },
    { name := "t", fields := [{ name := "t", ty := .named "t" }] }]

theorem leadIn_cycle_walked :
    leadIn.layoutOrder = .error "t" ∧
      ∃ start i s, LayoutOrder.Walk leadIn.layoutGraph [0] [] start i ∧
        leadIn.structs[i]? = some s ∧ s.name = "t" ∧ leadIn.ContainsItself i := by
  have failed : leadIn.layoutOrder = .error "t" := by decide
  obtain ⟨placed, start, i, s, stuck, -, -, walks, found, named, cycle⟩ :=
    reported_cycle_walked failed
  obtain rfl : [0] = placed := by
    have stopped : LayoutOrder.arrange leadIn.layoutGraph leadIn.layoutGraph.length [] =
        .error [0] := by
      decide
    simpa using stopped.symm.trans stuck
  exact ⟨failed, start, i, s, (walks i).mpr rfl, found, named, cycle⟩

end Bindery.Items
