import Bindery.Ownership.Block
import Bindery.Ownership.Closure
import Bindery.Proofs.Named

set_option autoImplicit false
set_option relaxedAutoImplicit false

/-!
Resources at their places. The sessions know an object by its value, so two objects with equal
values look alike there. A placed resource also says which one it is. Shelves are generic in what
they hold, so shelves of placed resources move by the same rules, and forgetting the places gives
the sessions back step by step.
-/

namespace Bindery.Ownership

/-- What tells one resource from all others. -/
abbrev Place := Nat

/-- A resource and its place; what stands for nothing has none. -/
structure Placed (ρ : Type) where
  place : Option Place
  content : ρ

instance {ρ : Type} [Resource ρ] : Resource (Placed ρ) where
  empty := ⟨none, Resource.empty⟩
  isHeld r := Resource.isHeld r.content

inductive Deed (ρ δ : Type) where
  | move (m : Move ρ δ)
  | amend (slot : String) (f : ρ → ρ)
  | keep (parcel : String)
  | rest

section Deeds

variable {ρ δ : Type}

def Shelf.act [Resource ρ] (s : Shelf ρ δ) : Deed ρ δ → Shelf ρ δ × List (Deletion ρ δ)
  | .move m => s.move m
  | .amend name f => (s.hold name ⟨f (s.slot name).resource, (s.slot name).deleter⟩, [])
  | .keep name => (s.wrap name (s.parcel name), [])
  | .rest => (s, [])

def Owner.placedAt (p : Option Place) (o : Owner ρ δ) : Owner (Placed ρ) δ :=
  ⟨⟨p, o.resource⟩, o.deleter⟩

def Move.placedAt (p : Option Place) : Move ρ δ → Move (Placed ρ) δ
  | .put name o => .put name (o.placedAt p)
  | .send name parcel => .send name parcel
  | .blank parcel => .blank parcel
  | .receive name parcel => .receive name parcel
  | .release name => .release name
  | .reset name o => .reset name (o.placedAt p)
  | .clear name => .clear name
  | .take name target => .take name target
  | .swap name other => .swap name other
  | .drop name => .drop name

/-- A deed in which a resource that is brought in is at a place. What changes in place stays where
it is. -/
def Deed.placedAt (p : Option Place) : Deed ρ δ → Deed (Placed ρ) δ
  | .move m => .move (m.placedAt p)
  | .amend name f => .amend name fun r => ⟨r.place, f r.content⟩
  | .keep name => .keep name
  | .rest => .rest

def Owner.unplaced (o : Owner (Placed ρ) δ) : Owner ρ δ := ⟨o.resource.content, o.deleter⟩

def Deletion.unplaced (d : Deletion (Placed ρ) δ) : Deletion ρ δ := ⟨d.deleter, d.resource.content⟩

def Shelf.unplaced (s : Shelf (Placed ρ) δ) : Shelf ρ δ where
  slots := s.slots.map fun e => (e.1, e.2.unplaced)
  parcels := s.parcels.map fun e => (e.1, e.2.unplaced)

end Deeds

section Forgetting

variable {ρ δ : Type}

@[simp]
theorem Owner.unplaced_placedAt (p : Option Place) (o : Owner ρ δ) :
    (o.placedAt p).unplaced = o := rfl

@[simp]
theorem Shelf.unplaced_hold (s : Shelf (Placed ρ) δ) (name : String) (o : Owner (Placed ρ) δ) :
    (s.hold name o).unplaced = s.unplaced.hold name o.unplaced := by
  simp only [hold, unplaced, Named.set_mapValues]

@[simp]
theorem Shelf.unplaced_vacate (s : Shelf (Placed ρ) δ) (name : String) :
    (s.vacate name).unplaced = s.unplaced.vacate name := by
  simp only [vacate, unplaced, Named.erase_mapValues]

@[simp]
theorem Shelf.unplaced_wrap (s : Shelf (Placed ρ) δ) (name : String) (o : Owner (Placed ρ) δ) :
    (s.wrap name o).unplaced = s.unplaced.wrap name o.unplaced := by
  simp only [wrap, unplaced, Named.set_mapValues]

@[simp]
theorem Shelf.unplaced_unwrap (s : Shelf (Placed ρ) δ) (name : String) :
    (s.unwrap name).unplaced = s.unplaced.unwrap name := by
  simp only [unwrap, unplaced, Named.erase_mapValues]

variable [Resource ρ]

@[simp]
theorem Owner.unplaced_empty : (Owner.empty : Owner (Placed ρ) δ).unplaced = Owner.empty := rfl

@[simp]
theorem Shelf.slot_unplaced (s : Shelf (Placed ρ) δ) (name : String) :
    s.unplaced.slot name = (s.slot name).unplaced := by
  simp only [slot, unplaced, Named.get?_mapValues]
  cases s.slots.get? name <;> rfl

@[simp]
theorem Shelf.parcel_unplaced (s : Shelf (Placed ρ) δ) (name : String) :
    s.unplaced.parcel name = (s.parcel name).unplaced := by
  simp only [parcel, unplaced, Named.get?_mapValues]
  cases s.parcels.get? name <;> rfl

theorem Owner.free_unplaced (o : Owner (Placed ρ) δ) :
    o.unplaced.free = o.free.map Deletion.unplaced := by
  obtain ⟨⟨p, r⟩, d⟩ := o
  cases d with
  | none => rfl
  | some d =>
    by_cases held : Resource.isHeld r = true
    · have placed : Resource.isHeld (⟨p, r⟩ : Placed ρ) = true := held
      simp [free, unplaced, held, placed, Deletion.unplaced]
    · have placed : ¬ Resource.isHeld (⟨p, r⟩ : Placed ρ) = true := held
      simp [free, unplaced, held, placed]

theorem Shelf.put_unplaced (s : Shelf (Placed ρ) δ) (name : String) (o : Owner (Placed ρ) δ) :
    s.unplaced.put name o.unplaced =
      ((s.put name o).1.unplaced, (s.put name o).2.map Deletion.unplaced) := by
  simp only [put, slot_unplaced, unplaced_hold, Owner.free_unplaced]

theorem Shelf.move_unplaced (s : Shelf (Placed ρ) δ) (p : Option Place) (m : Move ρ δ) :
    s.unplaced.move m =
      ((s.move (m.placedAt p)).1.unplaced, (s.move (m.placedAt p)).2.map Deletion.unplaced) := by
  cases m with
  | put name o => exact s.put_unplaced name (o.placedAt p)
  | send name parcel => simp [move, Move.placedAt]
  | blank parcel => simp [move, Move.placedAt]
  | receive name parcel =>
    have received := (s.unwrap parcel).put_unplaced name (s.parcel parcel)
    rw [unplaced_unwrap, ← parcel_unplaced] at received
    exact received
  | release name => simp [move, Move.placedAt]
  | reset name o => exact s.put_unplaced name (o.placedAt p)
  | clear name => exact s.put_unplaced name Owner.empty
  | take name target =>
    have taken := (s.hold name Owner.empty).put_unplaced target (s.slot name)
    rw [unplaced_hold, ← slot_unplaced] at taken
    exact taken
  | swap name other => simp [move, Move.placedAt]
  | drop name => simp [move, Move.placedAt, Owner.free_unplaced]

theorem Shelf.act_unplaced (s : Shelf (Placed ρ) δ) (p : Option Place) (d : Deed ρ δ) :
    s.unplaced.act d =
      ((s.act (d.placedAt p)).1.unplaced, (s.act (d.placedAt p)).2.map Deletion.unplaced) := by
  cases d with
  | move m => exact s.move_unplaced p m
  | amend name f => simp [act, Deed.placedAt, Owner.unplaced]
  | keep name => simp [act, Deed.placedAt]
  | rest => rfl

end Forgetting

namespace Pointer

def Step.deed : Step → Deed Pointee Deleter
  | .move m => .move m
  | .write name value => .amend name (Option.map fun _ => value)
  | .isNull name => .amend name id
  | .display name => .amend name id
  | .displayParcel _ => .rest

theorem step_shelf (s : Pointers) (st : Step) : (step s st).1 = (s.act st.deed).1 := by
  cases st <;> rfl

theorem step_reports (s : Pointers) (st : Step) :
    (step s st).2.1 = (s.act st.deed).2.flatMap report := by
  cases st <;> rfl

end Pointer

namespace Block

def Step.deed : Step → Deed (View Int64) Deleter
  | .move m => .move m
  | .fill name value count => .move (.put name (boxed (List.replicate count value)))
  | .write name index value =>
    .amend name fun v =>
      match v.index index value with
      | .ok (_, next) => next
      | .error _ => v
  | .intoList name => .move (.drop name)
  | .read name _ => .amend name id
  | .toList name => .amend name id
  | .sum name => .amend name id
  | .isNull name => .amend name id
  | .display name => .amend name id
  | .displayParcel _ => .rest

/-- The objects whose end a step reports although no block owned them: before the deletions the
pattern of a block without elements, and after them the copies that were listed. -/
def Step.unowned (s : Blocks) : Step → List Int64 × List Int64
  | .fill _ value count => (if count = 0 then [value] else [], [])
  | .intoList name => ([], (s.slot name).resource.toList.toOption.getD [])
  | _ => ([], [])

theorem step_shelf (s : Blocks) (st : Step) : (step s st).1 = (s.act st.deed).1 := by
  cases st with
  | write name index value =>
    simp only [step, Step.deed, Shelf.act]
    cases (s.slot name).resource.index index value <;> rfl
  | intoList name =>
    simp only [step, Step.deed, Shelf.act]
    cases (s.slot name).resource.toList <;> rfl
  | _ => rfl

theorem step_reports (s : Blocks) (st : Step) :
    (step s st).2.1 =
      (st.unowned s).1.map destroyed ++ (s.act st.deed).2.flatMap report ++
        (st.unowned s).2.map destroyed := by
  cases st with
  | move m => simp [step, moved, Step.deed, Step.unowned, Shelf.act]
  | fill name value count =>
    by_cases none : count = 0 <;> simp [step, moved, Step.deed, Step.unowned, Shelf.act, none]
  | write name index value =>
    simp only [step]
    cases (s.slot name).resource.index index value <;> rfl
  | intoList name =>
    simp only [step, Step.unowned]
    cases (s.slot name).resource.toList <;>
      simp [moved, Step.deed, Shelf.act, Except.toOption]
  | _ => rfl

end Block

namespace Closure

def Step.deed : Step → Deed Callable StateDeleter
  | .move m => .move m
  | .call name _ => .amend name id
  | .callParcel name _ => .keep name
  | .callCaller name _ => .amend name id
  | .display name => .amend name id
  | .displayParcel _ => .rest

theorem step_shelf (s : Closures) (st : Step) : (step s st).1 = (s.act st.deed).1 := by
  cases st <;> rfl

theorem step_reports (s : Closures) (st : Step) :
    (step s st).2.1 = (s.act st.deed).2.flatMap report := by
  cases st <;> rfl

end Closure

structure Sessions where
  pointers : Pointer.Pointers := {}
  blocks : Block.Blocks := {}
  closures : Closure.Closures := {}

inductive Sessions.Step where
  | pointer (st : Pointer.Step)
  | block (st : Block.Step)
  | closure (st : Closure.Step)

namespace Sessions

def step (s : Sessions) : Step → Sessions × List String
  | .pointer st => ({ s with pointers := (Pointer.step s.pointers st).1 },
      (Pointer.step s.pointers st).2.1)
  | .block st => ({ s with blocks := (Block.step s.blocks st).1 }, (Block.step s.blocks st).2.1)
  | .closure st => ({ s with closures := (Closure.step s.closures st).1 },
      (Closure.step s.closures st).2.1)

def run (s : Sessions) (steps : List Step) : Sessions := steps.foldl (fun s st => (s.step st).1) s

end Sessions

end Bindery.Ownership
