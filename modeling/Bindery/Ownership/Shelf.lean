import Bindery.Named
import Bindery.Ownership.Owner

set_option autoImplicit false
set_option relaxedAutoImplicit false

/-!
Shelves: owners kept in named slots, and parcels, which are owners in plain form on their way across
the library boundary. A parcel frees nothing by itself; the owner that is made of it does.
-/

namespace Bindery.Ownership

structure Shelf (ρ δ : Type) where
  slots : Named (Owner ρ δ) := []
  parcels : Named (Owner ρ δ) := []

inductive Move (ρ δ : Type) where
  | put (slot : String) (owner : Owner ρ δ)
  | send (slot parcel : String)
  | blank (parcel : String)
  | receive (slot parcel : String)
  /-- Lets go of the resource in a slot without freeing it. -/
  | release (slot : String)
  | reset (slot : String) (owner : Owner ρ δ)
  | clear (slot : String)
  | take (slot target : String)
  | swap (slot other : String)
  | drop (slot : String)

namespace Shelf

variable {ρ δ : Type} [Resource ρ]

/-- The owner in a slot; a slot that does not exist holds nothing. -/
def slot (s : Shelf ρ δ) (name : String) : Owner ρ δ := (s.slots.get? name).getD Owner.empty

def parcel (s : Shelf ρ δ) (name : String) : Owner ρ δ := (s.parcels.get? name).getD Owner.empty

def hold (s : Shelf ρ δ) (name : String) (o : Owner ρ δ) : Shelf ρ δ :=
  { s with slots := s.slots.set name o }

def vacate (s : Shelf ρ δ) (name : String) : Shelf ρ δ := { s with slots := s.slots.erase name }

/-- Sets a parcel; what an overwritten parcel held is lost. -/
def wrap (s : Shelf ρ δ) (name : String) (o : Owner ρ δ) : Shelf ρ δ :=
  { s with parcels := s.parcels.set name o }

def unwrap (s : Shelf ρ δ) (name : String) : Shelf ρ δ :=
  { s with parcels := s.parcels.erase name }

def touch (s : Shelf ρ δ) (name : String) : Shelf ρ δ := s.hold name (s.slot name)

def put (s : Shelf ρ δ) (name : String) (o : Owner ρ δ) : Shelf ρ δ × List (Deletion ρ δ) :=
  (s.hold name o, (s.slot name).free)

/-- Moves owners; the deletions are listed in the order in which they happen. -/
def move (s : Shelf ρ δ) : Move ρ δ → Shelf ρ δ × List (Deletion ρ δ)
  | .put name o => s.put name o
  | .send name parcel => ((s.vacate name).wrap parcel (s.slot name), [])
  | .blank parcel => (s.wrap parcel Owner.empty, [])
  | .receive name parcel => (s.unwrap parcel).put name (s.parcel parcel)
  | .release name => (s.hold name Owner.empty, [])
  | .reset name o => s.put name o
  | .clear name => s.put name Owner.empty
  | .take name target => (s.hold name Owner.empty).put target (s.slot name)
  | .swap name other => ((s.hold name (s.slot other)).hold other (s.slot name), [])
  | .drop name => (s.vacate name, (s.slot name).free)

/-- The deletions when all slots go away, in ascending order of their names. Parcels free
nothing. -/
def close (s : Shelf ρ δ) : List (Deletion ρ δ) := s.slots.sorted.flatMap fun e => e.2.free

end Shelf

end Bindery.Ownership
