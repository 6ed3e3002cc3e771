import Bindery.Proofs.Ownership.Ledger
import Mathlib.Algebra.Order.BigOperators.Group.List
import Mathlib.Data.Multiset.OrderedMonoid

set_option autoImplicit false
set_option relaxedAutoImplicit false

/-!
Pointers, blocks and closures in one world with one book. The caller may hand in a resource that is
new or that was released to it. After any run of steps under that rule every resource is in exactly
one place: held by one owner, in flight in one parcel, with the caller, abandoned, or deleted, and
it is deleted once at most, with what it was stored with.
-/

namespace Bindery.Ownership

section Balance

variable {ρ δ : Type} [Resource ρ]

def atPlace (p : Place) (entries : Multiset Entry) : Multiset Entry :=
  entries.filter fun e => e.1 = p

@[simp]
theorem atPlace_add (p : Place) (first second : Multiset Entry) :
    atPlace p (first + second) = atPlace p first + atPlace p second :=
  Multiset.filter_add _ _ _

/-- The entry that a resource should have: the one it was last stored with. -/
def Book.expected (b : Book) (p : Place) : Multiset Entry :=
  match b.stored p with
  | none => 0
  | some r => {(p, r)}

/-- Whether a book and the entries outside of it make up what was stored. -/
def Book.Balances (b : Book) (outside : Multiset Entry) : Prop :=
  ∀ p, atPlace p (outside + b.entries) = b.expected p

/-- Whether an owner holds a resource at all. A closure does unless all of it is missing. -/
def Owner.Carries (o : Owner ρ δ) : Prop := Resource.isHeld o.resource = true ∧ o ≠ Owner.empty

/-- Whether the caller may do a deed. A resource that it brings in is at a place, and it is new or
was released to the caller. -/
def Book.Admits (b : Book) (d : Deed ρ δ) (p : Option Place) : Prop :=
  ∀ o ∈ d.brings, (p.isSome ↔ o.Carries) ∧
    ∀ q ∈ p, b.stored q = none ∨ q ∈ b.released.map Prod.fst

instance [DecidableEq ρ] [DecidableEq δ] (o : Owner ρ δ) : Decidable o.Carries :=
  inferInstanceAs (Decidable (_ ∧ _))

instance [DecidableEq ρ] [DecidableEq δ] (b : Book) (d : Deed ρ δ) (p : Option Place) :
    Decidable (b.Admits d p) :=
  inferInstanceAs (Decidable (∀ o ∈ d.brings, (p.isSome ↔ o.Carries) ∧
    ∀ q ∈ p, b.stored q = none ∨ q ∈ b.released.map Prod.fst))

theorem Book.Admits.apt {b : Book} {d : Deed ρ δ} {p : Option Place} (admits : b.Admits d p) :
    ∀ o, (d.placedAt p).brings = some o → o.Apt := by
  intro o brought
  rw [d.brings_placedAt p] at brought
  obtain ⟨bare, brings, rfl⟩ := Option.map_eq_some_iff.mp brought
  have placed := (admits bare brings).1
  refine ⟨fun known => (placed.mp known).1, fun unknown deleter => ?_⟩
  by_contra held
  have carries : bare.Carries := by
    refine ⟨(Bool.not_eq_false _).mp held, ?_⟩
    rintro rfl
    simp [Owner.placedAt, Owner.empty] at deleter
  have known : p.isSome := placed.mpr carries
  rw [show p = none from unknown] at known
  simp at known

theorem Book.Admits.new_or_released {b : Book} {d : Deed ρ δ} {p : Option Place}
    (admits : b.Admits d p) {q : Place} (brought : (d.placedAt p).broughtPlace = some q) :
    b.stored q = none ∨ q ∈ b.released.map Prod.fst := by
  obtain ⟨o, placed, place⟩ := Option.bind_eq_some_iff.mp brought
  rw [d.brings_placedAt p] at placed
  obtain ⟨bare, brings, rfl⟩ := Option.map_eq_some_iff.mp placed
  exact (admits bare brings).2 q place

variable [Recorded ρ δ]

/-- A resource that may be brought in is nowhere but with the caller. -/
theorem Book.Balances.released_only {b : Book} {outside : Multiset Entry}
    (balanced : b.Balances outside) {q : Place}
    (admitted : b.stored q = none ∨ q ∈ b.released.map Prod.fst) :
    atPlace q b.released = atPlace q (outside + b.entries) := by
  have part : b.released ≤ outside + b.entries := by
    have inBook : b.released ≤ b.entries := by
      simp only [Book.entries]
      calc b.released ≤ b.astray + b.released := Multiset.le_add_left _ _
        _ ≤ b.astray + b.released + b.abandoned := Multiset.le_add_right _ _
        _ ≤ _ := Multiset.le_add_right _ _
    exact inBook.trans (Multiset.le_add_left _ _)
  have below : atPlace q b.released ≤ b.expected q := by
    rw [← balanced q]
    exact Multiset.filter_le_filter _ part
  rw [balanced q]
  cases stored : b.stored q with
  | none =>
    simp only [Book.expected, stored] at below ⊢
    exact Multiset.le_zero.mp below
  | some r =>
    simp only [Book.expected, stored] at below ⊢
    have member : q ∈ b.released.map Prod.fst := admitted.resolve_left (by simp [stored])
    obtain ⟨e, released, rfl⟩ := Multiset.mem_map.mp member
    have found : e ∈ atPlace e.1 b.released := Multiset.mem_filter.mpr ⟨released, rfl⟩
    exact Multiset.eq_of_le_of_card_le below (Multiset.card_pos_iff_exists_mem.mpr ⟨e, found⟩)

/-- A deed that the caller may do keeps the balance. -/
theorem Book.Balances.note {b : Book} {rest : Multiset Entry} {s : Shelf (Placed ρ) δ}
    (balanced : b.Balances (rest + s.entries)) (tidy : s.Tidy) {d : Deed ρ δ} (steady : d.Steady)
    {p : Option Place} (admits : b.Admits d p) :
    (b.note s (d.placedAt p)).Balances (rest + (s.act (d.placedAt p)).1.entries) := by
  intro q
  have step : atPlace q (rest + (s.act (d.placedAt p)).1.entries +
        (b.note s (d.placedAt p)).entries) +
      atPlace q (b.released.filter fun e => (d.placedAt p).broughtPlace = some e.1) =
      atPlace q (rest + s.entries + b.entries) + atPlace q (d.placedAt p).entries := by
    have conserved := congrArg (atPlace q) (entries_accounted b tidy steady p)
    simp only [atPlace_add] at conserved ⊢
    rw [add_assoc (atPlace q rest), add_assoc (atPlace q rest), conserved,
      add_assoc (atPlace q rest), add_assoc (atPlace q rest)]
  by_cases brought : (d.placedAt p).broughtPlace = some q
  · -- What is brought in was with the caller or nowhere, so nothing else is entered at its place.
    obtain ⟨r, entry, stored⟩ := b.note_of_brought s brought
    have handedIn := balanced.released_only (admits.new_or_released brought)
    have readopted : atPlace q (b.released.filter fun e =>
        (d.placedAt p).broughtPlace = some e.1) = atPlace q b.released := by
      simp only [atPlace, Multiset.filter_filter]
      refine Multiset.filter_congr fun e _ => ?_
      simp [brought, eq_comm]
    rw [readopted, handedIn, add_comm] at step
    rw [add_left_cancel step, entry, Book.expected, stored]
    simp [atPlace]
  · have unaffected : ∀ entries : Multiset Entry,
        (∀ e ∈ entries, (d.placedAt p).broughtPlace = some e.1) → atPlace q entries = 0 := by
      intro entries places
      refine Multiset.filter_eq_nil.mpr fun e member here => ?_
      exact brought (here ▸ places e member)
    rw [unaffected _ fun e member => (Multiset.mem_filter.mp member).2,
      unaffected _ fun e => Deed.entries_place, add_zero, add_zero] at step
    rw [step, balanced q, Book.expected, Book.expected, b.note_of_not_brought s brought]

/-- Whether a book says of every abandoned resource that it has no deleter, and of every deleter
that ran on what. -/
structure Book.Honest (b : Book) : Prop where
  abandoned : ∀ e ∈ b.abandoned, e.2.hasDeleter = false
  deletions : ∀ d ∈ b.deletions, d.1.isSome ∧ d.2.isHeld = true

theorem Owner.hasDeleter_abandoned {o : Owner (Placed ρ) δ} {e : Entry}
    (member : e ∈ o.abandonedEntries) : e.2.hasDeleter = false := by
  obtain ⟨⟨place, content⟩, deleter⟩ := o
  cases deleter with
  | some x => simp [abandonedEntries] at member
  | none =>
    cases place with
    | none => simp [abandonedEntries, entries] at member
    | some p =>
      have entry : e = (p, Recorded.record (⟨content, none⟩ : Owner ρ δ)) := by
        simpa [abandonedEntries, entries, unplaced] using member
      rw [entry, Recorded.hasDeleter_record]
      rfl

theorem Owner.Apt.event {o : Owner (Placed ρ) δ} (apt : o.Apt) {d : PlacedEvent}
    (member : d ∈ o.free.map Deletion.placedEvent) : d.1.isSome ∧ d.2.isHeld = true := by
  obtain ⟨⟨place, content⟩, deleter⟩ := o
  cases deleter with
  | none => simp [free] at member
  | some x =>
    by_cases held : Resource.isHeld (⟨place, content⟩ : Placed ρ) = true
    · have event : d = (place, Recorded.event ⟨x, content⟩) := by
        simpa [free, held, Deletion.placedEvent, Deletion.unplaced] using member
      subst event
      refine ⟨?_, (Recorded.isHeld_event _).trans held⟩
      cases place with
      | some p => rfl
      | none => exact absurd (apt.idle rfl rfl) (by simp [held])
    · simp [free, held] at member

theorem Book.Honest.note {b : Book} (honest : b.Honest) {s : Shelf (Placed ρ) δ} (tidy : s.Tidy)
    (d : Deed (Placed ρ) δ) : (b.note s d).Honest := by
  refine ⟨?_, ?_⟩
  · intro e member
    rcases Multiset.mem_add.mp member with old | new
    · exact honest.abandoned e old
    · exact Owner.hasDeleter_abandoned new
  · intro x member
    rcases List.mem_append.mp member with old | new
    · exact honest.deletions x old
    · rw [s.act_deletions] at new
      exact (tidy.ousted d).event new

end Balance

section Closing

variable {ρ δ : Type} [Resource ρ] [Recorded ρ δ]

/-- A shelf whose slots are gone. Its parcels stay. -/
def Shelf.emptied (s : Shelf (Placed ρ) δ) : Shelf (Placed ρ) δ := { s with slots := [] }

def Book.noteClose (b : Book) (s : Shelf (Placed ρ) δ) : Book :=
  { b with
    abandoned := b.abandoned + (s.slots.map fun e => e.2.abandonedEntries).sum
    deletions := b.deletions ++ s.close.map Deletion.placedEvent }

private theorem deletedEntries_flatMap (owners : Named (Owner (Placed ρ) δ)) :
    deletedEntries ((owners.flatMap fun e => e.2.free).map Deletion.placedEvent) =
      (owners.map fun e => deletedEntries (e.2.free.map Deletion.placedEvent)).sum := by
  induction owners with
  | nil => rfl
  | cons e rest ih => simp [List.flatMap_cons, ih]

theorem Shelf.deletedEntries_close (s : Shelf (Placed ρ) δ) :
    deletedEntries (s.close.map Deletion.placedEvent) =
      (s.slots.map fun e => deletedEntries (e.2.free.map Deletion.placedEvent)).sum := by
  have sorted : s.slots.sorted.Perm s.slots := List.mergeSort_perm _ _
  rw [Shelf.close, deletedEntries_flatMap]
  exact (sorted.map _).sum_eq

theorem Book.entries_noteClose (b : Book) {s : Shelf (Placed ρ) δ} (tidy : s.Tidy) :
    s.emptied.entries + (b.noteClose s).entries = s.entries + b.entries := by
  have discharged : (s.slots.map fun e => e.2.abandonedEntries).sum +
      deletedEntries (s.close.map Deletion.placedEvent) = s.held := by
    rw [s.deletedEntries_close, ← List.sum_map_add]
    refine congrArg List.sum (List.map_congr_left fun e member => ?_)
    exact Owner.entries_discharged (tidy.slots.apt e member)
  have emptied : s.emptied.entries = s.inFlight := zero_add _
  rw [emptied]
  simp only [entries, noteClose, deletedEntries_append, Shelf.entries, ← discharged]
  abel

private theorem exists_mem_of_mem_sum {α : Type} {f : α → Multiset Entry} {as : List α} {e : Entry}
    (member : e ∈ (as.map f).sum) : ∃ a ∈ as, e ∈ f a := by
  induction as with
  | nil => simp at member
  | cons a as ih =>
    rw [List.map_cons, List.sum_cons, Multiset.mem_add] at member
    rcases member with first | later
    · exact ⟨a, List.mem_cons_self, first⟩
    · obtain ⟨x, listed, found⟩ := ih later
      exact ⟨x, List.mem_cons_of_mem a listed, found⟩

theorem Book.Honest.noteClose {b : Book} (honest : b.Honest) {s : Shelf (Placed ρ) δ}
    (tidy : s.Tidy) : (b.noteClose s).Honest := by
  refine ⟨?_, ?_⟩
  · intro e member
    rcases Multiset.mem_add.mp member with old | new
    · exact honest.abandoned e old
    · obtain ⟨slot, _, abandoned⟩ := exists_mem_of_mem_sum new
      exact Owner.hasDeleter_abandoned abandoned
  · intro x member
    rcases List.mem_append.mp member with old | new
    · exact honest.deletions x old
    · obtain ⟨deletion, closed, rfl⟩ := List.mem_map.mp new
      obtain ⟨e, slot, freed⟩ := List.mem_flatMap.mp closed
      have listed : e ∈ s.slots := List.mem_mergeSort.mp slot
      exact (tidy.slots.apt e listed).event (List.mem_map_of_mem freed)

end Closing

theorem Pointer.Step.steady (st : Pointer.Step) : st.deed.Steady := by
  cases st with
  | write name value => exact fun r _ => ⟨by cases r <;> rfl, rfl⟩
  | isNull name => exact fun _ _ => ⟨rfl, rfl⟩
  | display name => exact fun _ _ => ⟨rfl, rfl⟩
  | _ => trivial

theorem View.index_keeps {v next : View Int64} {index : Nat} {value old : Int64}
    (written : v.index index value = .ok (old, next)) :
    next.isNull = v.isNull ∧ next.len = v.len := by
  cases v with
  | null n =>
    cases n <;> simp [View.index, View.toList] at written
  | block values =>
    simp only [View.index, View.toList] at written
    cases found : values[index]? with
    | none => simp [found] at written
    | some x =>
      simp only [found, Except.ok.injEq, Prod.mk.injEq] at written
      obtain ⟨-, rfl⟩ := written
      exact ⟨rfl, by simp [View.len]⟩

theorem Block.Step.steady (st : Block.Step) : st.deed.Steady := by
  cases st with
  | write name index value =>
    intro v deleter
    cases written : v.index index value with
    | error b => simp only [written, and_self]
    | ok result =>
      obtain ⟨old, next⟩ := result
      obtain ⟨sameNull, sameLen⟩ := View.index_keeps written
      simp only [written]
      exact ⟨congrArg (!·) sameNull, congrArg (Record.block · deleter) sameLen⟩
  | read name index => exact fun _ _ => ⟨rfl, rfl⟩
  | toList name => exact fun _ _ => ⟨rfl, rfl⟩
  | sum name => exact fun _ _ => ⟨rfl, rfl⟩
  | isNull name => exact fun _ _ => ⟨rfl, rfl⟩
  | display name => exact fun _ _ => ⟨rfl, rfl⟩
  | _ => trivial

theorem Closure.Step.steady (st : Closure.Step) : st.deed.Steady := by
  cases st with
  | call name args => exact fun _ _ => ⟨rfl, rfl⟩
  | callCaller name args => exact fun _ _ => ⟨rfl, rfl⟩
  | display name => exact fun _ _ => ⟨rfl, rfl⟩
  | _ => trivial

structure Action where
  step : Sessions.Step
  place : Option Place := none

structure World where
  pointers : Shelf (Placed Pointer.Pointee) Deleter := {}
  blocks : Shelf (Placed (View Int64)) Deleter := {}
  closures : Shelf (Placed Closure.Callable) Closure.StateDeleter := {}
  book : Book := {}

/-- What can have become of a resource. -/
inductive Status where
  | held
  | inFlight
  | released
  | abandoned
  | deleted
  deriving DecidableEq

namespace Status

def all : List Status := [.held, .inFlight, .released, .abandoned, .deleted]

theorem mem_all (st : Status) : st ∈ all := by cases st <;> decide

theorem all_nodup : all.Nodup := by decide

end Status

def Sessions.Step.disposes : Sessions.Step → Option String
  | .pointer st => st.deed.disposes
  | .block st => st.deed.disposes
  | .closure st => st.deed.disposes

def Sessions.Step.unowned (s : Sessions) : Sessions.Step → List String × List String
  | .block st => ((st.unowned s.blocks).1.map destroyed, (st.unowned s.blocks).2.map destroyed)
  | _ => ([], [])

namespace World

def sessions (w : World) : Sessions :=
  ⟨w.pointers.unplaced, w.blocks.unplaced, w.closures.unplaced⟩

def act (w : World) (a : Action) : World :=
  match a.step with
  | .pointer st =>
    let d := st.deed.placedAt a.place
    { w with pointers := (w.pointers.act d).1, book := w.book.note w.pointers d }
  | .block st =>
    let d := st.deed.placedAt a.place
    { w with blocks := (w.blocks.act d).1, book := w.book.note w.blocks d }
  | .closure st =>
    let d := st.deed.placedAt a.place
    { w with closures := (w.closures.act d).1, book := w.book.note w.closures d }

def events (w : World) (a : Action) : List PlacedEvent :=
  match a.step with
  | .pointer st => (w.pointers.act (st.deed.placedAt a.place)).2.map Deletion.placedEvent
  | .block st => (w.blocks.act (st.deed.placedAt a.place)).2.map Deletion.placedEvent
  | .closure st => (w.closures.act (st.deed.placedAt a.place)).2.map Deletion.placedEvent

def run (w : World) (actions : List Action) : World := actions.foldl act w

def Permits (w : World) (a : Action) : Prop :=
  match a.step with
  | .pointer st => w.book.Admits st.deed a.place
  | .block st => w.book.Admits st.deed a.place
  | .closure st => w.book.Admits st.deed a.place

instance (w : World) (a : Action) : Decidable (w.Permits a) :=
  match a with
  | ⟨.pointer st, p⟩ => inferInstanceAs (Decidable (w.book.Admits st.deed p))
  | ⟨.block st, p⟩ => inferInstanceAs (Decidable (w.book.Admits st.deed p))
  | ⟨.closure st, p⟩ => inferInstanceAs (Decidable (w.book.Admits st.deed p))

def PermitsAll (w : World) : List Action → Prop
  | [] => True
  | a :: rest => w.Permits a ∧ (w.act a).PermitsAll rest

instance decidablePermitsAll : (w : World) → (actions : List Action) →
    Decidable (w.PermitsAll actions)
  | _, [] => inferInstanceAs (Decidable True)
  | w, a :: rest =>
    have := decidablePermitsAll (w.act a) rest
    inferInstanceAs (Decidable (w.Permits a ∧ (w.act a).PermitsAll rest))

def close (w : World) : World where
  pointers := w.pointers.emptied
  blocks := w.blocks.emptied
  closures := w.closures.emptied
  book := ((w.book.noteClose w.pointers).noteClose w.blocks).noteClose w.closures

/-- The entries of the resources in a state. A parcel that was overwritten is still in flight. -/
def account (w : World) : Status → Multiset Entry
  | .held => w.pointers.held + w.blocks.held + w.closures.held
  | .inFlight =>
    w.pointers.inFlight + w.blocks.inFlight + w.closures.inFlight + w.book.astray
  | .released => w.book.released
  | .abandoned => w.book.abandoned
  | .deleted => deletedEntries w.book.deletions

/-- What a resource is stored with in a state: one record for each slot, for each parcel, or for
each time that its deleter ran. -/
def records (w : World) (st : Status) (p : Place) : Multiset Record :=
  (atPlace p (w.account st)).map Prod.snd

/-- Every resource is in exactly one state, and in it once, with what it was last stored with. What
is abandoned has no deleter, and every deleter that ran did so on a resource, with what the resource
was stored with. -/
structure Settled (w : World) : Prop where
  once : ∀ p r, w.book.stored p = some r →
    ∃ st, w.records st p = {r} ∧ ∀ other, other ≠ st → w.records other p = 0
  unknown : ∀ p, w.book.stored p = none → ∀ st, w.records st p = 0
  abandoned : ∀ p r, w.records .abandoned p = {r} → r.hasDeleter = false
  deletions : ∀ d ∈ w.book.deletions,
    ∃ p, d.1 = some p ∧ w.book.stored p = some d.2.record ∧ d.2.isHeld = true

/-- What every step keeps: the shelves are tidy, and the book is honest and balances with them. -/
structure Sound (w : World) : Prop where
  pointers : w.pointers.Tidy
  blocks : w.blocks.Tidy
  closures : w.closures.Tidy
  honest : w.book.Honest
  balanced : w.book.Balances (w.pointers.entries + w.blocks.entries + w.closures.entries)

theorem Sound.start : Sound {} where
  pointers := ⟨OwnersTidy.nil, OwnersTidy.nil⟩
  blocks := ⟨OwnersTidy.nil, OwnersTidy.nil⟩
  closures := ⟨OwnersTidy.nil, OwnersTidy.nil⟩
  honest := ⟨fun e member => absurd member (Multiset.notMem_zero e), by simp⟩
  balanced := fun _ => rfl

theorem Sound.act {w : World} (sound : w.Sound) {a : Action} (permitted : w.Permits a) :
    (w.act a).Sound := by
  obtain ⟨step, place⟩ := a
  cases step with
  | pointer st =>
    have balanced :
        w.book.Balances (w.blocks.entries + w.closures.entries + w.pointers.entries) := by
      rw [add_comm, ← add_assoc]
      exact sound.balanced
    have after := balanced.note sound.pointers st.steady permitted
    rw [add_comm, ← add_assoc] at after
    exact ⟨sound.pointers.act st.steady place permitted.apt, sound.blocks, sound.closures,
      sound.honest.note sound.pointers _, after⟩
  | block st =>
    have balanced :
        w.book.Balances (w.pointers.entries + w.closures.entries + w.blocks.entries) := by
      rw [add_right_comm]
      exact sound.balanced
    have after := balanced.note sound.blocks st.steady permitted
    rw [add_right_comm] at after
    exact ⟨sound.pointers, sound.blocks.act st.steady place permitted.apt, sound.closures,
      sound.honest.note sound.blocks _, after⟩
  | closure st =>
    exact ⟨sound.pointers, sound.blocks, sound.closures.act st.steady place permitted.apt,
      sound.honest.note sound.closures _,
      sound.balanced.note sound.closures st.steady permitted⟩

theorem Sound.run {w : World} (sound : w.Sound) {actions : List Action}
    (permitted : w.PermitsAll actions) : (w.run actions).Sound := by
  induction actions generalizing w with
  | nil => exact sound
  | cons a rest ih => exact ih (sound.act permitted.1) permitted.2

theorem Sound.close {w : World} (sound : w.Sound) : w.close.Sound where
  pointers := ⟨OwnersTidy.nil, sound.pointers.parcels⟩
  blocks := ⟨OwnersTidy.nil, sound.blocks.parcels⟩
  closures := ⟨OwnersTidy.nil, sound.closures.parcels⟩
  honest := ((sound.honest.noteClose sound.pointers).noteClose sound.blocks).noteClose
    sound.closures
  balanced := by
    have first := w.book.entries_noteClose sound.pointers
    have second := (w.book.noteClose w.pointers).entries_noteClose sound.blocks
    have third : w.closures.emptied.entries + w.close.book.entries = w.closures.entries +
        ((w.book.noteClose w.pointers).noteClose w.blocks).entries :=
      ((w.book.noteClose w.pointers).noteClose w.blocks).entries_noteClose sound.closures
    have same : w.pointers.emptied.entries + w.blocks.emptied.entries +
        w.closures.emptied.entries + w.close.book.entries =
        w.pointers.entries + w.blocks.entries + w.closures.entries + w.book.entries := by
      calc _ = w.pointers.emptied.entries + w.blocks.emptied.entries +
            (w.closures.emptied.entries + w.close.book.entries) := add_assoc _ _ _
        _ = w.pointers.emptied.entries + w.closures.entries + (w.blocks.emptied.entries +
            ((w.book.noteClose w.pointers).noteClose w.blocks).entries) := by
          rw [third]; abel
        _ = w.blocks.entries + w.closures.entries + (w.pointers.emptied.entries +
            (w.book.noteClose w.pointers).entries) := by rw [second]; abel
        _ = _ := by rw [first]; abel
    intro p
    exact (congrArg (atPlace p) same).trans (sound.balanced p)

theorem account_total (w : World) :
    (Status.all.map w.account).sum =
      w.pointers.entries + w.blocks.entries + w.closures.entries + w.book.entries := by
  simp only [Status.all, List.map_cons, List.map_nil, List.sum_cons, List.sum_nil, account,
    Shelf.entries, Book.entries]
  abel

private theorem singleton_of_add {α : Type} {first second : Multiset α} {a : α}
    (whole : first + second = {a}) :
    first = {a} ∧ second = 0 ∨ first = 0 ∧ second = {a} := by
  have cards : first.card + second.card = 1 := by
    rw [← Multiset.card_add, whole, Multiset.card_singleton]
  rcases Nat.eq_zero_or_pos second.card with none | some
  · have empty := Multiset.card_eq_zero.mp none
    exact Or.inl ⟨by simpa [empty] using whole, empty⟩
  · have empty := Multiset.card_eq_zero.mp (by omega : first.card = 0)
    exact Or.inr ⟨empty, by simpa [empty] using whole⟩

private theorem only_part_of_sum {ι α : Type} {part : ι → Multiset α} {a : α} {is : List ι}
    (nodup : is.Nodup) (whole : (is.map part).sum = {a}) :
    ∃ i ∈ is, part i = {a} ∧ ∀ j ∈ is, j ≠ i → part j = 0 := by
  induction is with
  | nil => exact absurd whole.symm (Multiset.singleton_ne_zero a)
  | cons i is ih =>
    obtain ⟨fresh, nodup⟩ := List.nodup_cons.mp nodup
    rw [List.map_cons, List.sum_cons] at whole
    rcases singleton_of_add whole with ⟨here, nowhere⟩ | ⟨nothing, later⟩
    · have others := List.sum_eq_zero_iff.mp nowhere
      refine ⟨i, List.mem_cons_self, here, ?_⟩
      intro j listed different
      have behind := (List.mem_cons.mp listed).resolve_left different
      exact others _ (List.mem_map_of_mem behind)
    · obtain ⟨j, listed, here, others⟩ := ih nodup later
      refine ⟨j, List.mem_cons_of_mem i listed, here, ?_⟩
      intro k among different
      rcases List.mem_cons.mp among with rfl | behind
      · exact nothing
      · exact others k behind different

theorem Sound.total {w : World} (sound : w.Sound) (p : Place) :
    (Status.all.map fun st => atPlace p (w.account st)).sum = w.book.expected p := by
  rw [← sound.balanced p, ← account_total]
  simp only [Status.all, List.map_cons, List.map_nil, List.sum_cons, List.sum_nil, atPlace_add,
    add_zero]

theorem Sound.settled {w : World} (sound : w.Sound) : w.Settled := by
  refine ⟨?_, ?_, ?_, ?_⟩
  · intro p r stored
    have whole := sound.total p
    simp only [Book.expected, stored] at whole
    obtain ⟨st, -, here, others⟩ := only_part_of_sum Status.all_nodup whole
    refine ⟨st, by simp [records, here], ?_⟩
    intro other different
    simp [records, others other (Status.mem_all other) different]
  · intro p stored st
    have whole := sound.total p
    simp only [Book.expected, stored] at whole
    have nothing := List.sum_eq_zero_iff.mp whole _ (List.mem_map_of_mem (Status.mem_all st))
    simp [records, nothing]
  · intro p r record
    have member : r ∈ w.records .abandoned p := by simp [record]
    obtain ⟨e, found, rfl⟩ := Multiset.mem_map.mp member
    exact sound.honest.abandoned e (Multiset.mem_filter.mp found).1
  · intro d ran
    obtain ⟨placed, held⟩ := sound.honest.deletions d ran
    obtain ⟨p, place⟩ := Option.isSome_iff_exists.mp placed
    have deleted : (p, d.2.record) ∈ atPlace p (w.account .deleted) := by
      refine Multiset.mem_filter.mpr ⟨?_, rfl⟩
      exact List.mem_filterMap.mpr ⟨d, ran, by simp [place]⟩
    have expected : (p, d.2.record) ∈ w.book.expected p := by
      rw [← sound.total p]
      exact Multiset.mem_of_le (List.single_le_sum (fun _ _ => Multiset.zero_le _) _
        (List.mem_map_of_mem (Status.mem_all .deleted))) deleted
    refine ⟨p, place, ?_, held⟩
    cases stored : w.book.stored p with
    | none => simp [Book.expected, stored] at expected
    | some r =>
      have same : d.2.record = r := by simpa [Book.expected, stored] using expected
      rw [same]

theorem sessions_act (w : World) (a : Action) :
    (w.act a).sessions = (w.sessions.step a.step).1 := by
  obtain ⟨step, place⟩ := a
  cases step with
  | pointer st =>
    simp only [sessions, act, Sessions.step, Pointer.step_shelf, w.pointers.act_unplaced place]
  | block st =>
    simp only [sessions, act, Sessions.step, Block.step_shelf, w.blocks.act_unplaced place]
  | closure st =>
    simp only [sessions, act, Sessions.step, Closure.step_shelf, w.closures.act_unplaced place]

theorem sessions_run (w : World) (actions : List Action) :
    (w.run actions).sessions = w.sessions.run (actions.map Action.step) := by
  induction actions generalizing w with
  | nil => rfl
  | cons a rest ih =>
    have later := ih (w.act a)
    rw [sessions_act] at later
    exact later

private theorem flatMap_unplaced {ρ δ : Type} [Resource ρ] [Recorded ρ δ]
    (report : Deletion ρ δ → List String) (same : ∀ d, (Recorded.event d).report = report d)
    (deletions : List (Deletion (Placed ρ) δ)) :
    (deletions.map Deletion.unplaced).flatMap report =
      (deletions.map Deletion.placedEvent).flatMap fun d => d.2.report := by
  rw [List.flatMap_map, List.flatMap_map]
  exact List.flatMap_congr fun d _ => (same d.unplaced).symm

theorem reports_act (w : World) (a : Action) :
    (w.sessions.step a.step).2 =
      (a.step.unowned w.sessions).1 ++ (w.events a).flatMap (fun d => d.2.report) ++
        (a.step.unowned w.sessions).2 := by
  obtain ⟨step, place⟩ := a
  cases step with
  | pointer st =>
    simp only [Sessions.step, Pointer.step_reports, sessions, w.pointers.act_unplaced place, events,
      Sessions.Step.unowned, List.nil_append, List.append_nil]
    exact flatMap_unplaced Pointer.report (fun _ => rfl) _
  | block st =>
    simp only [Sessions.step, Block.step_reports, sessions, w.blocks.act_unplaced place, events,
      Sessions.Step.unowned]
    rw [flatMap_unplaced Block.report fun _ => rfl]
  | closure st =>
    simp only [Sessions.step, Closure.step_reports, sessions, w.closures.act_unplaced place, events,
      Sessions.Step.unowned, List.nil_append, List.append_nil]
    exact flatMap_unplaced Closure.report (fun _ => rfl) _

private theorem act_disposes {ρ δ : Type} [Resource ρ] (s : Shelf (Placed ρ) δ) (d : Deed ρ δ)
    (p : Option Place) :
    (s.act (d.placedAt p)).2.length ≤ 1 ∧
      ((s.act (d.placedAt p)).2 ≠ [] → d.disposes.isSome) := by
  rw [s.act_deletions]
  constructor
  · unfold Owner.free
    split
    · split <;> simp
    · simp
  · intro ran
    cases d with
    | move m =>
      cases m with
      | send name parcel => exact absurd rfl ran
      | blank parcel => exact absurd rfl ran
      | release name => exact absurd rfl ran
      | swap name other => exact absurd rfl ran
      | _ => rfl
    | _ => exact absurd rfl ran

theorem events_act (w : World) (a : Action) :
    (w.act a).book.deletions = w.book.deletions ++ w.events a ∧ (w.events a).length ≤ 1 ∧
      (w.events a ≠ [] → a.step.disposes.isSome) := by
  obtain ⟨step, place⟩ := a
  cases step with
  | pointer st =>
    have disposes := act_disposes w.pointers st.deed place
    simpa [act, Book.note, events, Sessions.Step.disposes] using disposes
  | block st =>
    have disposes := act_disposes w.blocks st.deed place
    simpa [act, Book.note, events, Sessions.Step.disposes] using disposes
  | closure st =>
    have disposes := act_disposes w.closures st.deed place
    simpa [act, Book.note, events, Sessions.Step.disposes] using disposes

end World

/-- Every run of the sessions in which the caller brings in only what is new or was released to it
settles every resource: it is in exactly one state, and its deleter has run once, with what the
resource was stored with, if it is deleted, and never otherwise. A deleter runs only in a step in
which an owner goes away. When all slots are gone, what has a deleter is deleted unless it is in
flight or with the caller. -/
theorem resources_settled_throughout (actions : List Action)
    (permitted : World.PermitsAll {} actions) :
    let w := World.run {} actions
    w.sessions = Sessions.run {} (actions.map Action.step) ∧ w.Settled ∧
      (∀ a : Action,
        (w.act a).book.deletions = w.book.deletions ++ w.events a ∧ (w.events a).length ≤ 1 ∧
          (w.events a ≠ [] → a.step.disposes.isSome) ∧
          (w.sessions.step a.step).2 =
            (a.step.unowned w.sessions).1 ++ (w.events a).flatMap (fun d => d.2.report) ++
              (a.step.unowned w.sessions).2) ∧
      w.close.Settled ∧
      ∀ p r, w.book.stored p = some r → r.hasDeleter →
        w.close.records .deleted p = {r} ∨ w.close.records .inFlight p = {r} ∨
          w.close.records .released p = {r} := by
  intro w
  have sound : w.Sound := World.Sound.start.run permitted
  have closed := sound.close.settled
  refine ⟨World.sessions_run {} actions, sound.settled, ?_, closed, ?_⟩
  · intro a
    obtain ⟨grown, single, disposes⟩ := w.events_act a
    exact ⟨grown, single, disposes, w.reports_act a⟩
  · intro p r stored deleter
    obtain ⟨st, here, -⟩ := closed.once p r stored
    cases st with
    | held => exact absurd here.symm (Multiset.singleton_ne_zero r)
    | inFlight => exact Or.inr (Or.inl here)
    | released => exact Or.inr (Or.inr here)
    | abandoned => exact absurd deleter (by simp [closed.abandoned p r here])
    | deleted => exact Or.inl here

/-- A pointer crosses the boundary, is released and handed in again with another deleter; a block is
taken from its slot and listed; a closure replaces another one. -/
def lendingRun : List Action :=
  [⟨.pointer (.move (.put "p" (Pointer.boxed 7))), some 0⟩,
    ⟨.pointer (.move (.send "p" "raw")), none⟩,
    ⟨.pointer (.move (.receive "q" "raw")), none⟩,
    ⟨.pointer (.move (.release "q")), none⟩,
    ⟨.pointer (.move (.reset "r" ⟨some 7, some .custom⟩)), some 0⟩,
    ⟨.block (.fill "b" 1 2), some 1⟩,
    ⟨.block (.move (.take "b" "c")), none⟩,
    ⟨.block (.intoList "c"), none⟩,
    ⟨.closure (.move (.put "f" (Closure.Kind.capturing .counted 3).make)), some 2⟩,
    ⟨.closure (.move (.reset "f" (Closure.Kind.function .sum).make)), some 3⟩]

theorem lendingRun_settled :
    World.PermitsAll {} lendingRun ∧ (World.run {} lendingRun).Settled ∧
      (World.run {} lendingRun).book.deletions.map Prod.fst = [some 1, some 2] ∧
      (World.run {} lendingRun).book.stored 0 = some (.pointer (some .custom)) ∧
      (World.run {} lendingRun).close.Settled := by
  have permitted : World.PermitsAll {} lendingRun := by decide
  obtain ⟨-, settled, -, closed, -⟩ := resources_settled_throughout lendingRun permitted
  exact ⟨permitted, settled, by decide, by decide, closed⟩

end Bindery.Ownership
