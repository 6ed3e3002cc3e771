import Bindery.KeyValue.Session
import Bindery.Proofs.KeyValue.Store
import Mathlib.Data.List.Forall2

set_option autoImplicit false
set_option relaxedAutoImplicit false

/-!
Sessions seen through what was asked of them. The history alone says which map every store is by now
and which snapshot every slot keeps; a session answers every request by these maps, changes one
store at a time and counts a snapshot as freed when it is dropped and at no other time.
-/

namespace Bindery.KeyValue

open Ownership

abbrev History := List (String × Request)

namespace History

def session : History → Session
  | [] => {}
  | (name, r) :: earlier => ((session earlier).step name r).session

/-- The map that a store is: the latest request about a key decides, and before it the latest
drop. -/
def text : History → String → Bytes → Option Bytes
  | [], _, _ => none
  | (target, r) :: earlier, name, key =>
    if target = name then
      match r with
      | .set k t => if k = key then some t else text earlier name key
      | .delete k => if k = key then none else text earlier name key
      | .drop => none
      | _ => text earlier name key
    else text earlier name key

/-- What the snapshot in a slot was taken of: a store, and the history it was taken after. -/
def kept : History → String → Option (History × String)
  | [], _ => none
  | (name, r) :: earlier, slot =>
    match r with
    | .keep target => if target = slot then some (earlier, name) else kept earlier slot
    | .free target => if target = slot then none else kept earlier slot
    | _ => kept earlier slot

/-- The snapshot that a request drops: one that it takes for itself alone, or the one in its
slot. -/
def dropped (past : History) (name : String) : Request → Option (History × String)
  | .entries => some (past, name)
  | .entryAt _ => some (past, name)
  | .keep slot => past.kept slot
  | .free slot => past.kept slot
  | _ => none

def Shows (taken : History × String) (es : List KeyEntry) : Prop :=
  Lists es (taken.1.text taken.2)

/-- Whether a reply is right after a history. -/
def Answered (past : History) (name : String) : Request → Reply → Prop
  | .set _ _, .nothing => True
  | .get key, .text t => t = past.text name key
  | .delete key, .flag b => b = true ↔ ∃ t, past.text name key = some t
  | .entries, .entries es => Shows (past, name) es
  | .entryAt i, .entry e => ∃ es, Shows (past, name) es ∧
      e = match es[i]? with
        | some found => .ok found
        | none => .error (.outOfRange ⟨i, es.length⟩)
  | .keep _, .count n => ∃ es, Shows (past, name) es ∧ n = some es.length
  | .free slot, .count n =>
    Option.Rel (fun taken len => ∃ es, Shows taken es ∧ len = es.length) (past.kept slot) n
  | .forEach, .visited es released => Shows (past, name) es ∧ released = true
  | .drop, .nothing => True
  | _, _ => False

end History

open History

def Request.changed (store : Store) : Request → Store
  | .set key text => store.set key text
  | .delete key => store.delete key
  | .drop => []
  | _ => store

def Request.slotted (store : Store) (slot : String) (held : Option Snapshot) :
    Request → Option Snapshot
  | .keep target => if target = slot then some store.snapshot else held
  | .free target => if target = slot then none else held
  | _ => held

namespace Session

theorem store_step (s : Session) (name other : String) (r : Request) :
    (s.step name r).session.store other =
      if name = other then r.changed (s.store name) else s.store other := by
  by_cases same : name = other
  · subst same
    cases r <;> simp [step, answer, store, update, Request.changed]
  · rw [if_neg same]
    cases r <;>
      simp [step, answer, store, update, Named.get?_set_of_ne, Named.get?_erase_of_ne, same]

theorem slot_step (s : Session) (name slot : String) (r : Request) :
    (s.step name r).session.snapshots.slots.get? slot =
      r.slotted (s.store name) slot (s.snapshots.slots.get? slot) := by
  cases r with
  | keep target =>
    by_cases same : target = slot
    · simp [step, answer, Shelf.move, Shelf.put, Shelf.hold, Request.slotted, same]
    · simp [step, answer, Shelf.move, Shelf.put, Shelf.hold, Request.slotted, same,
        Named.get?_set_of_ne]
  | free target =>
    by_cases same : target = slot
    · simp [step, answer, Shelf.move, Shelf.vacate, Request.slotted, same]
    · simp [step, answer, Shelf.move, Shelf.vacate, Request.slotted, same, Named.get?_erase_of_ne]
  | _ => rfl

end Session

section Visiting

variable {φ ζ κ σ : Type} [Erased.Runs φ ζ κ σ KeyEntry Unit] [DecidableEq κ]

/-- A visitor that returns from every call sees the whole store in order and is then dropped
once. -/
theorem Store.forEach_of_returns {visitor : Erased.Triple φ ζ κ σ} {store : Store}
    (returns : ∀ e ∈ store, Erased.call visitor.resource e = .value ()) :
    store.forEach visitor = ⟨store, .ok (visitor.deleter.toList.map (⟨·, visitor.resource⟩))⟩ := by
  induction store with
  | nil =>
    have freed : visitor.free = visitor.deleter.toList.map (⟨·, visitor.resource⟩) := by
      unfold Owner.free
      cases visitor.deleter <;> rfl
    rw [forEach, freed]
  | cons e rest ih =>
    have here := returns e List.mem_cons_self
    have later := ih fun x member => returns x (List.mem_cons_of_mem e member)
    simp only [forEach, here, later]

end Visiting

theorem Store.forEach_recorder (store : Store) :
    store.forEach recorder = ⟨store, .ok [⟨.recorder, recorder.resource⟩]⟩ :=
  forEach_of_returns fun _ _ => rfl

theorem at?_block (es : List KeyEntry) (i : Nat) :
    (View.block es).at? i = match es[i]? with
      | some found => .ok found
      | none => .error (.outOfRange ⟨i, es.length⟩) := by
  by_cases inside : i < es.length
  · simp [View.at?, View.checkRange, View.len, inside]
  · simp [View.at?, View.checkRange, View.len, inside]

/-- Whether a session is as its history says. -/
structure Follows (past : History) (s : Session) : Prop where
  stores : ∀ name, Shows (past, name) (s.store name)
  slots : ∀ slot, Option.Rel (fun taken o => ∃ es, Shows taken es ∧ o = Store.snapshot es)
    (past.kept slot) (s.snapshots.slots.get? slot)

namespace Follows

variable {past : History} {s : Session}

theorem initial : Follows [] {} := by
  constructor
  · intro name
    exact Lists.nil
  · intro slot
    exact Option.Rel.none

theorem step (follows : Follows past s) (name : String) (r : Request) :
    Follows ((name, r) :: past) (s.step name r).session := by
  constructor
  · intro other
    rw [Session.store_step]
    by_cases same : name = other
    · subst same
      have before : Lists (s.store name) (past.text name) := follows.stores name
      rw [if_pos rfl]
      unfold Shows
      cases r with
      | set key value => simpa [text, Request.changed] using before.set key value
      | delete key => simpa [text, Request.changed] using before.delete key
      | drop => simpa [text, Request.changed] using Lists.nil
      | _ => simpa [text, Request.changed] using before
    · rw [if_neg same]
      simpa [Shows, text, same] using follows.stores other
  · intro slot
    have before := follows.slots slot
    rw [Session.slot_step]
    cases r with
    | keep target =>
      by_cases same : target = slot
      · simp only [Request.slotted, kept, same, if_true]
        exact Option.Rel.some ⟨s.store name, follows.stores name, rfl⟩
      · simpa only [Request.slotted, kept, same, if_false] using before
    | free target =>
      by_cases same : target = slot
      · simp only [Request.slotted, kept, same, if_true]
        exact Option.Rel.none
      · simpa only [Request.slotted, kept, same, if_false] using before
    | _ => exact before

theorem session (past : History) : Follows past past.session := by
  induction past with
  | nil => exact initial
  | cons latest earlier ih => exact ih.step latest.1 latest.2

theorem slot_free (follows : Follows past s) (slot : String) :
    List.Forall₂ (fun taken d => ∃ es, Shows taken es ∧ d = ⟨.entries, .block es⟩)
      (past.kept slot).toList (s.snapshots.slot slot).free := by
  have held := follows.slots slot
  unfold Shelf.slot
  generalize past.kept slot = taken at held
  generalize s.snapshots.slots.get? slot = found at held
  cases held with
  | none => exact List.Forall₂.nil
  | some shown =>
    obtain ⟨es, shows, rfl⟩ := shown
    exact List.Forall₂.cons ⟨es, shows, rfl⟩ List.Forall₂.nil

theorem freed (follows : Follows past s) (name : String) (r : Request) :
    List.Forall₂ (fun taken d => ∃ es, Shows taken es ∧ d = ⟨.entries, .block es⟩)
      (past.dropped name r).toList (s.step name r).freed := by
  have alone : List.Forall₂
      (fun taken (d : Deletion (View KeyEntry) SnapshotDeleter) =>
        ∃ es, Shows taken es ∧ d = ⟨.entries, .block es⟩)
      [(past, name)] (s.store name).snapshot.free :=
    List.Forall₂.cons ⟨s.store name, follows.stores name, rfl⟩ List.Forall₂.nil
  cases r with
  | entries => exact alone
  | entryAt index => exact alone
  | keep slot => exact follows.slot_free slot
  | free slot => exact follows.slot_free slot
  | _ => exact List.Forall₂.nil

theorem answered (follows : Follows past s) (name : String) (r : Request) :
    Answered past name r (s.step name r).reply := by
  have stored := follows.stores name
  cases r with
  | set key text => trivial
  | get key => exact Lists.get?_eq stored key
  | delete key =>
    have found := Lists.get?_eq stored key
    simp [Session.step, Session.answer, Answered, Store.contains, found, Option.isSome_iff_exists]
  | entries => exact stored
  | entryAt index => exact ⟨s.store name, stored, at?_block _ index⟩
  | keep slot => exact ⟨s.store name, stored, rfl⟩
  | free slot =>
    have held := follows.slots slot
    simp only [Session.step, Session.answer, Answered]
    generalize past.kept slot = taken at held
    generalize s.snapshots.slots.get? slot = found at held
    cases held with
    | none => exact Option.Rel.none
    | some shown =>
      obtain ⟨es, shows, rfl⟩ := shown
      exact Option.Rel.some ⟨es, shows, rfl⟩
  | forEach =>
    simp only [Session.step, Session.answer, Answered, Store.forEach_recorder]
    exact ⟨stored, rfl⟩
  | drop => trivial

end Follows

/-- Sessions refine ordered maps. Whatever was asked before, a request is answered by the map that
the history makes of its store; it leaves every other store as it is, and its own as the map that
the longer history gives; it counts one more freed snapshot exactly if it drops one, which then held
what its store was when it was taken. Visitors see what a snapshot would hold, and are dropped
once. -/
theorem session_refines_maps (past : History) (name : String) (r : Request) :
    let effect := past.session.step name r
    Answered past name r effect.reply ∧
    (∀ other, Shows ((name, r) :: past, other) (effect.session.store other)) ∧
    (∀ other, name ≠ other → effect.session.store other = past.session.store other) ∧
    List.Forall₂ (fun taken d => ∃ es, Shows taken es ∧ d = ⟨.entries, .block es⟩)
      (past.dropped name r).toList effect.freed ∧
    effect.session.entriesFreed =
      past.session.entriesFreed + (if (past.dropped name r).isSome then 1 else 0) ∧
    ∀ (φ ζ κ σ : Type) [Erased.Runs φ ζ κ σ KeyEntry Unit] [DecidableEq κ]
      (visitor : Erased.Triple φ ζ κ σ),
      (∀ e, Erased.call visitor.resource e = .value ()) →
        ∃ es, (past.session.step name .entries).reply = .entries es ∧ Shows (past, name) es ∧
          (past.session.store name).forEach visitor =
            ⟨es, .ok (visitor.deleter.toList.map (⟨·, visitor.resource⟩))⟩ := by
  have follows := Follows.session past
  have freed := follows.freed name r
  have after := follows.step name r
  refine ⟨follows.answered name r, after.stores, ?_, freed, ?_, ?_⟩
  · intro other different
    have same : text ((name, r) :: past) other = text past other := by
      funext key
      simp [text, different]
    exact Lists.unique (after.stores other) (same ▸ follows.stores other)
  · have counted : (past.session.step name r).session.entriesFreed =
        past.session.entriesFreed + (past.session.step name r).freed.length := by
      cases r <;> rfl
    rw [counted, ← freed.length_eq]
    cases past.dropped name r <;> rfl
  · intro φ ζ κ σ _ _ visitor returns
    exact ⟨past.session.store name, rfl, follows.stores name,
      Store.forEach_of_returns fun e _ => returns e⟩

/-- A store that was dropped and filled again, with a snapshot in a slot that is older than its
latest change. -/
def refilled : History :=
  [("a", .delete [7]), ("b", .set [7] [9]), ("a", .keep "s"), ("a", .set [7, 0] [8]),
    ("a", .set [7] [1]), ("a", .drop), ("a", .set [5] [5])]

theorem refilled_refines :
    (∃ es, Shows (refilled.drop 3, "a") es ∧
      (refilled.session.step "a" (.free "s")).freed = [⟨.entries, .block es⟩]) ∧
    (refilled.session.step "a" (.free "s")).session.entriesFreed = 1 ∧
    ∃ es, Shows (refilled, "a") es ∧ (refilled.session.store "a").forEach recorder =
      ⟨es, .ok [⟨.recorder, recorder.resource⟩]⟩ := by
  obtain ⟨-, -, -, freed, counted, visited⟩ := session_refines_maps refilled "a" (.free "s")
  obtain ⟨es, -, shown, seen⟩ := visited Empty Empty Recorder Unit recorder fun _ => rfl
  refine ⟨?_, counted, es, shown, seen⟩
  have taken : refilled.dropped "a" (.free "s") = some (refilled.drop 3, "a") := rfl
  rw [taken] at freed
  obtain ⟨d, rest, ⟨held, shows, rfl⟩, done, split⟩ := List.forall₂_cons_left_iff.mp freed
  rw [List.forall₂_nil_left_iff.mp done] at split
  exact ⟨held, shows, split⟩

end Bindery.KeyValue
