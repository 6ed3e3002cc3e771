import Bindery.Journal
import Bindery.KeyValue.Store
import Bindery.Ownership.Erased
import Bindery.Ownership.View

set_option autoImplicit false
set_option relaxedAutoImplicit false

/-!
Sessions with several stores. A snapshot of a store is an owned block, and a visitor of a store is
an owned callable: both are freed by the side that owns them last.
-/

namespace Bindery.KeyValue

open Ownership

inductive SnapshotDeleter where
  | entries
  deriving DecidableEq, Repr

abbrev Snapshot := Owner (View KeyEntry) SnapshotDeleter

abbrev Snapshots := Shelf (View KeyEntry) SnapshotDeleter

/-- A snapshot of a store. -/
def Store.snapshot (store : Store) : Snapshot := ⟨.block store, some .entries⟩

/-- What comes of handing a visitor to a store. -/
structure Visit (δ ρ : Type) where
  called : List KeyEntry
  /-- The deletions after the last call, or the call that the process ended with. -/
  ended : Except (Erased.Outcome Unit) (List (Deletion ρ δ))

/-- Calls a visitor on every entry in order and then frees it. A call that does not return ends the
visit. -/
def Store.forEach {φ ζ κ σ : Type} [Erased.Runs φ ζ κ σ KeyEntry Unit] [DecidableEq κ]
    (visitor : Erased.Triple φ ζ κ σ) : Store → Visit κ (Erased.Callable φ ζ κ σ)
  | [] => ⟨[], .ok visitor.free⟩
  | e :: rest =>
    match Erased.call visitor.resource e with
    | .value () =>
      let later := forEach visitor rest
      ⟨e :: later.called, later.ended⟩
    | stopped => ⟨[e], .error stopped⟩

/-- A visitor that keeps what it is called on in a log it shares with its maker. -/
inductive Recorder where
  | recorder
  deriving DecidableEq, Repr

instance : Erased.Runs Empty Empty Recorder Unit KeyEntry Unit where
  function f := nomatch f
  stateless f := nomatch f
  capturing _ _ _ := .ok ()

def recorder : Erased.Triple Empty Empty Recorder Unit :=
  (Erased.Callee.capturing .recorder ()).erase

structure Session where
  stores : Named Store := []
  snapshots : Snapshots := {}
  entriesFreed : Nat := 0

inductive Request where
  | set (key text : Bytes)
  | get (key : Bytes)
  | delete (key : Bytes)
  | entries
  | entryAt (index : Nat)
  | keep (slot : String)
  | free (slot : String)
  | forEach
  | drop

inductive Reply where
  | nothing
  | text (t : Option Bytes)
  | flag (b : Bool)
  | entries (es : List KeyEntry)
  | entry (e : Except Fault KeyEntry)
  | count (n : Option Nat)
  | visited (es : List KeyEntry) (released : Bool)

structure Effect where
  session : Session
  reply : Reply
  freed : List (Deletion (View KeyEntry) SnapshotDeleter) := []

def freeing (freed : List (Deletion (View KeyEntry) SnapshotDeleter)) : List Entry :=
  freed.map fun d => ⟨.trace, "freeing " ++ toString d.resource.len ++ " entries"⟩

/-- The entries that a request writes. -/
def Effect.entries (e : Effect) : List Entry := freeing e.freed

namespace Session

def store (s : Session) (name : String) : Store := (s.stores.get? name).getD []

def update (s : Session) (name : String) (store : Store) : Session :=
  { s with stores := s.stores.set name store }

def answer (s : Session) (name : String) : Request → Effect
  | .set key text => ⟨s.update name ((s.store name).set key text), .nothing, []⟩
  | .get key => ⟨s, .text ((s.store name).get? key), []⟩
  | .delete key =>
    ⟨s.update name ((s.store name).delete key), .flag ((s.store name).contains key), []⟩
  | .entries => ⟨s, .entries (s.store name), (s.store name).snapshot.free⟩
  | .entryAt index =>
    let snapshot := (s.store name).snapshot
    ⟨s, .entry (snapshot.resource.at? index), snapshot.free⟩
  | .keep slot =>
    let snapshot := (s.store name).snapshot
    let (snapshots, freed) := s.snapshots.move (.put slot snapshot)
    ⟨{ s with snapshots }, .count (some snapshot.resource.len), freed⟩
  | .free slot =>
    let held := s.snapshots.slots.get? slot
    let (snapshots, freed) := s.snapshots.move (.drop slot)
    ⟨{ s with snapshots }, .count (held.map fun o => o.resource.len), freed⟩
  | .forEach =>
    let visit := (s.store name).forEach recorder
    ⟨s, .visited visit.called ((visit.ended.toOption.map List.length) == some 1), []⟩
  | .drop => ⟨{ s with stores := s.stores.erase name }, .nothing, []⟩

/-- Answers a request to the store of a name and counts the snapshots that are freed. -/
def step (s : Session) (name : String) (r : Request) : Effect :=
  let e := s.answer name r
  { e with session := { e.session with entriesFreed := e.session.entriesFreed + e.freed.length } }

def closing (s : Session) : List Entry := freeing s.snapshots.close

end Session

end Bindery.KeyValue
