import Bindery.Proofs.Ownership.Placed
import Mathlib.Algebra.BigOperators.Group.List.Basic
import Mathlib.Algebra.Order.Group.Multiset
import Mathlib.Tactic.Abel

set_option autoImplicit false
set_option relaxedAutoImplicit false

/-!
The ledger of a shelf. Every resource that is brought in is entered with what it was stored with,
and every entry stays in exactly one account: in a slot, in a parcel, or among those that left the
shelf because their owner went away, let go of them or was overwritten in its parcel. A deed only
moves entries from one account to another.
-/

namespace Bindery.Ownership

/-- What an owner keeps for as long as it holds its resource: its deleter, the length of a view, the
caller and the state of a closure. -/
inductive Record where
  | pointer (deleter : Option Deleter)
  | block (len : Nat) (deleter : Option Deleter)
  | closure (callable : Closure.Callable) (deleter : Option Closure.StateDeleter)
  deriving DecidableEq

def Record.hasDeleter : Record → Bool
  | .pointer deleter => deleter.isSome
  | .block _ deleter => deleter.isSome
  | .closure _ deleter => deleter.isSome

inductive Event where
  | pointer (d : Deletion Pointer.Pointee Deleter)
  | block (d : Deletion (View Int64) Deleter)
  | closure (d : Deletion Closure.Callable Closure.StateDeleter)

namespace Event

def record : Event → Record
  | .pointer d => .pointer (some d.deleter)
  | .block d => .block d.resource.len (some d.deleter)
  | .closure d => .closure d.resource (some d.deleter)

def report : Event → List String
  | .pointer d => Pointer.report d
  | .block d => Block.report d
  | .closure d => Closure.report d

/-- Whether the deleter got something to free. A closure may be without a state. -/
def isHeld : Event → Bool
  | .pointer d => d.resource.isSome
  | .block d => !d.resource.isNull
  | .closure _ => true

end Event

class Recorded (ρ δ : Type) [Resource ρ] where
  record : Owner ρ δ → Record
  event : Deletion ρ δ → Event
  hasDeleter_record : ∀ o : Owner ρ δ, (record o).hasDeleter = o.deleter.isSome
  record_event : ∀ d : Deletion ρ δ, (event d).record = record ⟨d.resource, some d.deleter⟩
  isHeld_event : ∀ d : Deletion ρ δ, (event d).isHeld = Resource.isHeld d.resource

instance : Recorded Pointer.Pointee Deleter where
  record o := .pointer o.deleter
  event := .pointer
  hasDeleter_record _ := rfl
  record_event _ := rfl
  isHeld_event _ := rfl

instance : Recorded (View Int64) Deleter where
  record o := .block o.resource.len o.deleter
  event := .block
  hasDeleter_record _ := rfl
  record_event _ := rfl
  isHeld_event _ := rfl

instance : Recorded Closure.Callable Closure.StateDeleter where
  record o := .closure o.resource o.deleter
  event := .closure
  hasDeleter_record _ := rfl
  record_event _ := rfl
  isHeld_event _ := rfl

abbrev Entry := Place × Record

abbrev PlacedEvent := Option Place × Event

def deletedEntries (events : List PlacedEvent) : Multiset Entry :=
  events.filterMap fun d => d.1.map fun p => (p, d.2.record)

@[simp]
theorem deletedEntries_nil : deletedEntries [] = 0 := rfl

@[simp]
theorem deletedEntries_append (first second : List PlacedEvent) :
    deletedEntries (first ++ second) = deletedEntries first + deletedEntries second := by
  simp [deletedEntries, List.filterMap_append]

section Departures

variable {ρ δ : Type}

/-- The slot whose owner goes away in a deed: it is dropped, reset or cleared, or another owner is
assigned to the slot. -/
def Deed.disposes : Deed ρ δ → Option String
  | .move (.put name _) => some name
  | .move (.receive name _) => some name
  | .move (.reset name _) => some name
  | .move (.clear name) => some name
  | .move (.take _ target) => some target
  | .move (.drop name) => some name
  | _ => none

def Deed.brings : Deed ρ δ → Option (Owner ρ δ)
  | .move (.put _ o) => some o
  | .move (.reset _ o) => some o
  | _ => none

theorem Deed.brings_placedAt (d : Deed ρ δ) (p : Option Place) :
    (d.placedAt p).brings = d.brings.map (Owner.placedAt p) := by
  cases d with
  | move m => cases m <;> rfl
  | _ => rfl

variable [Resource ρ]

def Shelf.ousted (s : Shelf ρ δ) : Deed ρ δ → Owner ρ δ
  | .move (.put name _) => s.slot name
  | .move (.receive name _) => s.slot name
  | .move (.reset name _) => s.slot name
  | .move (.clear name) => s.slot name
  | .move (.take name target) => (s.hold name Owner.empty).slot target
  | .move (.drop name) => s.slot name
  | _ => Owner.empty

def Shelf.letGo (s : Shelf ρ δ) : Deed ρ δ → Owner ρ δ
  | .move (.release name) => s.slot name
  | _ => Owner.empty

def Shelf.overwritten (s : Shelf ρ δ) : Deed ρ δ → Owner ρ δ
  | .move (.send _ parcel) => s.parcel parcel
  | .move (.blank parcel) => s.parcel parcel
  | _ => Owner.empty

theorem Shelf.act_deletions (s : Shelf ρ δ) (d : Deed ρ δ) : (s.act d).2 = (s.ousted d).free := by
  cases d with
  | move m => cases m <;> rfl
  | _ => rfl

theorem Shelf.slot_hold (s : Shelf ρ δ) (name other : String) (o : Owner ρ δ) :
    (s.hold name o).slot other = if name = other then o else s.slot other := by
  by_cases same : name = other
  · subst same
    simp [slot, hold]
  · simp [slot, hold, same, Named.get?_set_of_ne]

end Departures

section Entries

variable {ρ δ : Type} [Resource ρ] [Recorded ρ δ]

def Owner.entries (o : Owner (Placed ρ) δ) : Multiset Entry :=
  match o.resource.place with
  | none => 0
  | some p => {(p, Recorded.record o.unplaced)}

def entriesOf (owners : Named (Owner (Placed ρ) δ)) : Multiset Entry :=
  (owners.map fun e => e.2.entries).sum

def Deletion.placedEvent (d : Deletion (Placed ρ) δ) : PlacedEvent :=
  (d.resource.place, Recorded.event d.unplaced)

@[simp]
theorem Owner.entries_empty : (Owner.empty : Owner (Placed ρ) δ).entries = 0 := rfl

@[simp]
theorem entriesOf_nil : entriesOf ([] : Named (Owner (Placed ρ) δ)) = 0 := rfl

theorem entriesOf_cons (e : String × Owner (Placed ρ) δ) (owners : Named (Owner (Placed ρ) δ)) :
    entriesOf (e :: owners) = e.2.entries + entriesOf owners := by
  simp [entriesOf]

theorem entriesOf_set (name : String) (o : Owner (Placed ρ) δ)
    (owners : Named (Owner (Placed ρ) δ)) :
    entriesOf (owners.set name o) + ((owners.get? name).getD Owner.empty).entries =
      entriesOf owners + o.entries := by
  induction owners with
  | nil => simp [Named.set, entriesOf_cons]
  | cons e rest ih =>
    by_cases found : e.1 = name
    · simp only [Named.set, found, beq_self_eq_true, if_true, Named.get?_cons, entriesOf_cons,
        Option.getD_some]
      abel
    · simp only [Named.set, found, beq_iff_eq, if_false, Named.get?_cons, entriesOf_cons]
      rw [add_assoc, ih, add_assoc]

theorem entriesOf_erase (name : String) (owners : Named (Owner (Placed ρ) δ))
    (nodup : (owners.map Prod.fst).Nodup) :
    entriesOf (owners.erase name) + ((owners.get? name).getD Owner.empty).entries =
      entriesOf owners := by
  induction owners with
  | nil => rfl
  | cons e rest ih =>
    obtain ⟨fresh, nodup⟩ := List.nodup_cons.mp nodup
    by_cases found : e.1 = name
    · have skipped : Named.erase (e :: rest) name = rest := by
        have dropped : Named.erase (e :: rest) name = Named.erase rest name := by
          simp [Named.erase, found]
        rw [dropped, Named.erase_of_notMem (found ▸ fresh)]
      simp only [skipped, Named.get?_cons, found, if_true, Option.getD_some, entriesOf_cons]
      exact add_comm _ _
    · have kept : Named.erase (e :: rest) name = e :: Named.erase rest name := by
        simp [Named.erase, found]
      simp only [kept, Named.get?_cons, found, if_false, entriesOf_cons]
      rw [add_assoc, ih nodup]

end Entries

section Tidiness

variable {ρ δ : Type} [Resource ρ]

/-- Whether the place of a resource tells the truth: what has a place can be freed, and what has
none is never freed. -/
structure Owner.Apt (o : Owner (Placed ρ) δ) : Prop where
  held : o.resource.place.isSome → Resource.isHeld o.resource = true
  idle : o.resource.place = none → o.deleter.isSome → Resource.isHeld o.resource = false

theorem Owner.apt_empty : (Owner.empty : Owner (Placed ρ) δ).Apt :=
  ⟨fun placed => by simp [empty, Resource.empty] at placed,
    fun _ deleter => by simp [empty] at deleter⟩

structure OwnersTidy (owners : Named (Owner (Placed ρ) δ)) : Prop where
  nodup : (owners.map Prod.fst).Nodup
  apt : ∀ e ∈ owners, e.2.Apt

theorem OwnersTidy.nil : OwnersTidy ([] : Named (Owner (Placed ρ) δ)) := ⟨List.nodup_nil, by simp⟩

theorem OwnersTidy.get {owners : Named (Owner (Placed ρ) δ)} (tidy : OwnersTidy owners)
    (name : String) : ((owners.get? name).getD Owner.empty).Apt := by
  cases found : owners.get? name with
  | none => exact Owner.apt_empty
  | some o => exact tidy.apt (name, o) (Named.mem_of_get? found)

theorem OwnersTidy.set {owners : Named (Owner (Placed ρ) δ)} (tidy : OwnersTidy owners)
    (name : String) {o : Owner (Placed ρ) δ} (apt : o.Apt) : OwnersTidy (owners.set name o) := by
  refine ⟨Named.nodup_set name o tidy.nodup, ?_⟩
  intro e member
  rcases Named.mem_set member with old | rfl
  · exact tidy.apt e old
  · exact apt

theorem OwnersTidy.erase {owners : Named (Owner (Placed ρ) δ)} (tidy : OwnersTidy owners)
    (name : String) : OwnersTidy (owners.erase name) := by
  have part := owners.erase_sublist name
  exact ⟨tidy.nodup.sublist (part.map Prod.fst), fun e member => tidy.apt e (part.subset member)⟩

structure Shelf.Tidy (s : Shelf (Placed ρ) δ) : Prop where
  slots : OwnersTidy s.slots
  parcels : OwnersTidy s.parcels

namespace Shelf.Tidy

variable {s : Shelf (Placed ρ) δ}

theorem hold (tidy : s.Tidy) (name : String) {o : Owner (Placed ρ) δ} (apt : o.Apt) :
    (s.hold name o).Tidy := ⟨tidy.slots.set name apt, tidy.parcels⟩

theorem vacate (tidy : s.Tidy) (name : String) : (s.vacate name).Tidy :=
  ⟨tidy.slots.erase name, tidy.parcels⟩

theorem wrap (tidy : s.Tidy) (name : String) {o : Owner (Placed ρ) δ} (apt : o.Apt) :
    (s.wrap name o).Tidy := ⟨tidy.slots, tidy.parcels.set name apt⟩

theorem unwrap (tidy : s.Tidy) (name : String) : (s.unwrap name).Tidy :=
  ⟨tidy.slots, tidy.parcels.erase name⟩

theorem slot (tidy : s.Tidy) (name : String) : (s.slot name).Apt := tidy.slots.get name

theorem parcel (tidy : s.Tidy) (name : String) : (s.parcel name).Apt := tidy.parcels.get name

end Shelf.Tidy

theorem Shelf.Tidy.ousted {s : Shelf (Placed ρ) δ} (tidy : s.Tidy) (d : Deed (Placed ρ) δ) :
    (s.ousted d).Apt := by
  cases d with
  | move m =>
    cases m with
    | take name target => exact (tidy.hold name Owner.apt_empty).slot target
    | put name _ => exact tidy.slot name
    | receive name _ => exact tidy.slot name
    | reset name _ => exact tidy.slot name
    | clear name => exact tidy.slot name
    | drop name => exact tidy.slot name
    | _ => exact Owner.apt_empty
  | _ => exact Owner.apt_empty

end Tidiness

section Conservation

variable {ρ δ : Type} [Resource ρ] [Recorded ρ δ]

def Shelf.held (s : Shelf (Placed ρ) δ) : Multiset Entry := entriesOf s.slots

def Shelf.inFlight (s : Shelf (Placed ρ) δ) : Multiset Entry := entriesOf s.parcels

def Shelf.entries (s : Shelf (Placed ρ) δ) : Multiset Entry := s.held + s.inFlight

def Deed.entries (d : Deed (Placed ρ) δ) : Multiset Entry := (d.brings.map Owner.entries).getD 0

theorem Shelf.entries_hold (s : Shelf (Placed ρ) δ) (name : String) (o : Owner (Placed ρ) δ) :
    (s.hold name o).entries + (s.slot name).entries = s.entries + o.entries := by
  have replaced := entriesOf_set name o s.slots
  calc entriesOf (s.slots.set name o) + s.inFlight + (s.slot name).entries
      = entriesOf (s.slots.set name o) + (s.slot name).entries + s.inFlight := by abel
    _ = entriesOf s.slots + o.entries + s.inFlight := by rw [← replaced]; rfl
    _ = s.entries + o.entries := by simp only [entries, held]; abel

theorem Shelf.entries_vacate (s : Shelf (Placed ρ) δ) (tidy : s.Tidy) (name : String) :
    (s.vacate name).entries + (s.slot name).entries = s.entries := by
  have removed := entriesOf_erase name s.slots tidy.slots.nodup
  calc entriesOf (s.slots.erase name) + s.inFlight + (s.slot name).entries
      = entriesOf (s.slots.erase name) + (s.slot name).entries + s.inFlight := by abel
    _ = s.entries := by simp only [entries, held]; rw [← removed]; rfl

theorem Shelf.entries_wrap (s : Shelf (Placed ρ) δ) (name : String) (o : Owner (Placed ρ) δ) :
    (s.wrap name o).entries + (s.parcel name).entries = s.entries + o.entries := by
  have replaced := entriesOf_set name o s.parcels
  calc s.held + entriesOf (s.parcels.set name o) + (s.parcel name).entries
      = s.held + (entriesOf (s.parcels.set name o) + (s.parcel name).entries) := by abel
    _ = s.held + (entriesOf s.parcels + o.entries) := by rw [← replaced]; rfl
    _ = s.entries + o.entries := by simp only [entries, inFlight]; abel

theorem Shelf.entries_unwrap (s : Shelf (Placed ρ) δ) (tidy : s.Tidy) (name : String) :
    (s.unwrap name).entries + (s.parcel name).entries = s.entries := by
  have removed := entriesOf_erase name s.parcels tidy.parcels.nodup
  calc s.held + entriesOf (s.parcels.erase name) + (s.parcel name).entries
      = s.held + (entriesOf (s.parcels.erase name) + (s.parcel name).entries) := by abel
    _ = s.entries := by simp only [entries, inFlight]; rw [← removed]; rfl

/-- Whether what a deed changes in place stays what it was entered as. -/
def Deed.Steady : Deed ρ δ → Prop
  | .amend _ f => ∀ (r : ρ) (deleter : Option δ), Resource.isHeld (f r) = Resource.isHeld r ∧
      Recorded.record (⟨f r, deleter⟩ : Owner ρ δ) = Recorded.record (⟨r, deleter⟩ : Owner ρ δ)
  | _ => True

/-- Moving owners neither makes nor loses an entry: what leaves the shelf is accounted for by the
owner that goes away, the one that lets go, and the one in an overwritten parcel. -/
theorem Shelf.entries_move (s : Shelf (Placed ρ) δ) (tidy : s.Tidy) (m : Move (Placed ρ) δ) :
    (s.move m).1.entries + ((s.ousted (.move m)).entries + (s.letGo (.move m)).entries +
        (s.overwritten (.move m)).entries) =
      s.entries + (Deed.move m).entries := by
  cases m <;> simp only [move, put, ousted, letGo, overwritten, Deed.entries, Deed.brings,
    Option.map_some, Option.map_none, Option.getD_some, Option.getD_none, Owner.entries_empty,
    add_zero, zero_add]
  case put name o => exact s.entries_hold name o
  case send name parcel =>
    have wrapped := (s.vacate name).entries_wrap parcel (s.slot name)
    rw [s.entries_vacate tidy name] at wrapped
    exact wrapped
  case blank parcel => simpa using s.entries_wrap parcel Owner.empty
  case receive name parcel =>
    have held := (s.unwrap parcel).entries_hold name (s.parcel parcel)
    rw [s.entries_unwrap tidy parcel] at held
    exact held
  case release name => simpa using s.entries_hold name Owner.empty
  case reset name o => exact s.entries_hold name o
  case clear name => simpa using s.entries_hold name Owner.empty
  case take name target =>
    have held := (s.hold name Owner.empty).entries_hold target (s.slot name)
    rw [s.entries_hold name Owner.empty] at held
    simpa using held
  case swap name other =>
    -- Whether or not the two slots are the same one, the second one is still as before when its
    -- turn comes.
    have second := (s.hold name (s.slot other)).entries_hold other (s.slot name)
    rw [s.entries_hold name (s.slot other), s.slot_hold name other, ite_self] at second
    exact add_right_cancel second
  case drop name => exact s.entries_vacate tidy name

theorem Shelf.entries_act (s : Shelf (Placed ρ) δ) (tidy : s.Tidy) {d : Deed ρ δ}
    (steady : d.Steady)
    (p : Option Place) :
    (s.act (d.placedAt p)).1.entries + ((s.ousted (d.placedAt p)).entries +
        (s.letGo (d.placedAt p)).entries + (s.overwritten (d.placedAt p)).entries) =
      s.entries + (d.placedAt p).entries := by
  cases d with
  | move m => exact s.entries_move tidy (m.placedAt p)
  | amend name f =>
    have same : (⟨⟨(s.slot name).resource.place, f (s.slot name).resource.content⟩,
        (s.slot name).deleter⟩ : Owner (Placed ρ) δ).entries = (s.slot name).entries := by
      have recorded := (steady (s.slot name).resource.content (s.slot name).deleter).2
      simp only [Owner.entries, Owner.unplaced, recorded]
    have held := s.entries_hold name ⟨⟨(s.slot name).resource.place,
      f (s.slot name).resource.content⟩, (s.slot name).deleter⟩
    rw [same] at held
    simpa [act, Deed.placedAt, ousted, letGo, overwritten, Deed.entries, Deed.brings] using
      add_right_cancel held
  | keep name =>
    simpa [act, Deed.placedAt, ousted, letGo, overwritten, Deed.entries, Deed.brings] using
      add_right_cancel (s.entries_wrap name (s.parcel name))
  | rest => simp [act, Deed.placedAt, ousted, letGo, overwritten, Deed.entries, Deed.brings]

theorem Shelf.Tidy.act {s : Shelf (Placed ρ) δ} (tidy : s.Tidy) {d : Deed ρ δ} (steady : d.Steady)
    (p : Option Place) (apt : ∀ o, (d.placedAt p).brings = some o → o.Apt) :
    (s.act (d.placedAt p)).1.Tidy := by
  cases d with
  | move m =>
    cases m with
    | put name o => exact tidy.hold name (apt _ rfl)
    | send name parcel => exact (tidy.vacate name).wrap parcel (tidy.slot name)
    | blank parcel => exact tidy.wrap parcel Owner.apt_empty
    | receive name parcel => exact (tidy.unwrap parcel).hold name (tidy.parcel parcel)
    | release name => exact tidy.hold name Owner.apt_empty
    | reset name o => exact tidy.hold name (apt _ rfl)
    | clear name => exact tidy.hold name Owner.apt_empty
    | take name target => exact (tidy.hold name Owner.apt_empty).hold target (tidy.slot name)
    | swap name other => exact (tidy.hold name (tidy.slot other)).hold other (tidy.slot name)
    | drop name => exact tidy.vacate name
  | amend name f =>
    refine tidy.hold name ?_
    have kept := (steady (s.slot name).resource.content (s.slot name).deleter).1
    have before := tidy.slot name
    exact ⟨fun placed => kept.trans (before.held placed),
      fun unplaced deleter => kept.trans (before.idle unplaced deleter)⟩
  | keep name => exact tidy.wrap name (tidy.parcel name)
  | rest => exact tidy

end Conservation

section Books

variable {ρ δ : Type} [Resource ρ] [Recorded ρ δ]

/-- What has become of the resources that were brought in. -/
structure Book where
  stored : Place → Option Record := fun _ => none
  /-- Resources in parcels that were overwritten. Nobody can receive them any more. -/
  astray : Multiset Entry := 0
  /-- Resources that were handed to the caller. -/
  released : Multiset Entry := 0
  /-- Resources whose owner went away without a deleter. -/
  abandoned : Multiset Entry := 0
  deletions : List PlacedEvent := []

namespace Book

def entries (b : Book) : Multiset Entry :=
  b.astray + b.released + b.abandoned + deletedEntries b.deletions

end Book

def Deed.broughtPlace (d : Deed (Placed ρ) δ) : Option Place :=
  d.brings.bind fun o => o.resource.place

def Owner.abandonedEntries (o : Owner (Placed ρ) δ) : Multiset Entry :=
  if o.deleter.isNone then o.entries else 0

/-- What a deed on a shelf adds to a book. A resource that the caller hands in again is no longer
with the caller. -/
def Book.note (b : Book) (s : Shelf (Placed ρ) δ) (d : Deed (Placed ρ) δ) : Book where
  stored p :=
    if d.broughtPlace = some p then d.brings.map fun o => Recorded.record o.unplaced
    else b.stored p
  astray := b.astray + (s.overwritten d).entries
  released := b.released.filter (fun e => d.broughtPlace ≠ some e.1) + (s.letGo d).entries
  abandoned := b.abandoned + (s.ousted d).abandonedEntries
  deletions := b.deletions ++ (s.act d).2.map Deletion.placedEvent

theorem Owner.entries_discharged {o : Owner (Placed ρ) δ} (apt : o.Apt) :
    o.abandonedEntries + deletedEntries (o.free.map Deletion.placedEvent) = o.entries := by
  obtain ⟨⟨place, content⟩, deleter⟩ := o
  cases deleter with
  | none => simp [abandonedEntries, free]
  | some x =>
    cases place with
    | none =>
      have idle := apt.idle rfl rfl
      simp [abandonedEntries, free, entries, idle]
    | some p =>
      have held := apt.held rfl
      have recorded := Recorded.record_event (⟨x, content⟩ : Deletion ρ δ)
      simp [abandonedEntries, free, entries, held, deletedEntries, Deletion.placedEvent,
        Deletion.unplaced, Owner.unplaced, recorded]

theorem Book.entries_note (b : Book) {s : Shelf (Placed ρ) δ} (tidy : s.Tidy)
    (d : Deed (Placed ρ) δ) :
    (b.note s d).entries + b.released.filter (fun e => d.broughtPlace = some e.1) =
      b.entries + ((s.ousted d).entries + (s.letGo d).entries + (s.overwritten d).entries) := by
  have discharged := Owner.entries_discharged (tidy.ousted d)
  have parted := Multiset.filter_add_not (fun e : Entry => d.broughtPlace = some e.1) b.released
  simp only [entries, note, s.act_deletions, deletedEntries_append]
  conv_rhs => rw [← discharged, ← parted]
  abel

/-- A deed on a shelf with its book neither makes nor loses an entry, apart from what is brought in
and what is handed in again. -/
theorem entries_accounted (b : Book) {s : Shelf (Placed ρ) δ} (tidy : s.Tidy) {d : Deed ρ δ}
    (steady : d.Steady) (p : Option Place) :
    (s.act (d.placedAt p)).1.entries + (b.note s (d.placedAt p)).entries +
        b.released.filter (fun e => (d.placedAt p).broughtPlace = some e.1) =
      s.entries + b.entries + (d.placedAt p).entries := by
  have shelf := s.entries_act tidy steady p
  have book := b.entries_note tidy (d.placedAt p)
  generalize (s.ousted (d.placedAt p)).entries + (s.letGo (d.placedAt p)).entries +
    (s.overwritten (d.placedAt p)).entries = left at shelf book
  apply add_right_cancel (b := left)
  calc _ = ((s.act (d.placedAt p)).1.entries + left) + ((b.note s (d.placedAt p)).entries +
          b.released.filter fun e => (d.placedAt p).broughtPlace = some e.1) := by abel
    _ = (s.entries + (d.placedAt p).entries) + (b.entries + left) := by rw [shelf, book]
    _ = _ := by abel

theorem Book.note_of_brought (b : Book) (s : Shelf (Placed ρ) δ) {d : Deed (Placed ρ) δ} {q : Place}
    (brought : d.broughtPlace = some q) :
    ∃ r, d.entries = {(q, r)} ∧ (b.note s d).stored q = some r := by
  obtain ⟨o, brings, place⟩ := Option.bind_eq_some_iff.mp brought
  refine ⟨Recorded.record o.unplaced, ?_, ?_⟩
  · simp [Deed.entries, brings, Owner.entries, place]
  · simp [note, brought, brings]

theorem Book.note_of_not_brought (b : Book) (s : Shelf (Placed ρ) δ) {d : Deed (Placed ρ) δ}
    {q : Place} (other : d.broughtPlace ≠ some q) : (b.note s d).stored q = b.stored q := by
  simp [note, other]

theorem Deed.entries_place {d : Deed (Placed ρ) δ} {e : Entry} (member : e ∈ d.entries) :
    d.broughtPlace = some e.1 := by
  cases brings : d.brings with
  | none => simp [Deed.entries, brings] at member
  | some o =>
    cases place : o.resource.place with
    | none => simp [Deed.entries, brings, Owner.entries, place] at member
    | some q =>
      have entry : e = (q, Recorded.record o.unplaced) := by
        simpa [Deed.entries, brings, Owner.entries, place] using member
      simp [broughtPlace, brings, place, entry]

end Books

end Bindery.Ownership
