import Bindery.Ownership.Closure
import Bindery.Proofs.Named

set_option autoImplicit false
set_option relaxedAutoImplicit false

/-!
Closures stay whole. A shelf only ever moves whole owners, so what stands in a slot or a parcel
after a step stood somewhere before it or was brought in by it. Hence the caller, the state and the
deleter in a slot were made together of one callee, and calling the slot, its plain form or its bare
caller is running that callee.
-/

namespace Bindery.Ownership

section Owners

variable {ρ δ : Type}

def Shelf.owners (s : Shelf ρ δ) : List (Owner ρ δ) :=
  s.slots.map Prod.snd ++ s.parcels.map Prod.snd

def Move.brings : Move ρ δ → Option (Owner ρ δ)
  | .put _ o => some o
  | .reset _ o => some o
  | _ => none

namespace Shelf

variable {s : Shelf ρ δ} {o a : Owner ρ δ} {name : String}

private theorem mem_values_set {names : Named (Owner ρ δ)}
    (member : o ∈ (names.set name a).map Prod.snd) : o ∈ names.map Prod.snd ∨ o = a := by
  obtain ⟨e, listed, rfl⟩ := List.mem_map.mp member
  rcases Named.mem_set listed with old | rfl
  · exact Or.inl (List.mem_map_of_mem old)
  · exact Or.inr rfl

private theorem mem_values_erase {names : Named (Owner ρ δ)}
    (member : o ∈ (names.erase name).map Prod.snd) : o ∈ names.map Prod.snd :=
  ((Named.erase_sublist names name).map Prod.snd).subset member

theorem mem_owners_hold (member : o ∈ (s.hold name a).owners) : o ∈ s.owners ∨ o = a := by
  rcases List.mem_append.mp member with slot | parcel
  · rcases mem_values_set slot with old | new
    · exact Or.inl (List.mem_append_left _ old)
    · exact Or.inr new
  · exact Or.inl (List.mem_append_right _ parcel)

theorem mem_owners_wrap (member : o ∈ (s.wrap name a).owners) : o ∈ s.owners ∨ o = a := by
  rcases List.mem_append.mp member with slot | parcel
  · exact Or.inl (List.mem_append_left _ slot)
  · rcases mem_values_set parcel with old | new
    · exact Or.inl (List.mem_append_right _ old)
    · exact Or.inr new

theorem mem_owners_vacate (member : o ∈ (s.vacate name).owners) : o ∈ s.owners := by
  rcases List.mem_append.mp member with slot | parcel
  · exact List.mem_append_left _ (mem_values_erase slot)
  · exact List.mem_append_right _ parcel

theorem mem_owners_unwrap (member : o ∈ (s.unwrap name).owners) : o ∈ s.owners := by
  rcases List.mem_append.mp member with slot | parcel
  · exact List.mem_append_left _ slot
  · exact List.mem_append_right _ (mem_values_erase parcel)

variable [Resource ρ]

theorem slot_mem_owners (s : Shelf ρ δ) (name : String) :
    s.slot name = Owner.empty ∨ s.slot name ∈ s.owners := by
  unfold slot
  cases found : s.slots.get? name with
  | none => exact Or.inl rfl
  | some o =>
    have listed : o ∈ s.slots.map Prod.snd := List.mem_map_of_mem (Named.mem_of_get? found)
    exact Or.inr (List.mem_append_left _ listed)

theorem parcel_mem_owners (s : Shelf ρ δ) (name : String) :
    s.parcel name = Owner.empty ∨ s.parcel name ∈ s.owners := by
  unfold parcel
  cases found : s.parcels.get? name with
  | none => exact Or.inl rfl
  | some o =>
    have listed : o ∈ s.parcels.map Prod.snd := List.mem_map_of_mem (Named.mem_of_get? found)
    exact Or.inr (List.mem_append_right _ listed)

theorem mem_owners_move {m : Move ρ δ} (member : o ∈ (s.move m).1.owners) :
    o ∈ s.owners ∨ o = Owner.empty ∨ m.brings = some o := by
  have kept : ∀ {b : Owner ρ δ}, b = Owner.empty ∨ b ∈ s.owners → o = b →
      o ∈ s.owners ∨ o = Owner.empty ∨ m.brings = some o := by
    intro b known same
    subst same
    rcases known with nothing | old
    · exact Or.inr (Or.inl nothing)
    · exact Or.inl old
  cases m with
  | put name b =>
    rcases mem_owners_hold member with old | rfl
    · exact Or.inl old
    · exact Or.inr (Or.inr rfl)
  | send name parcel =>
    rcases mem_owners_wrap member with old | sent
    · exact Or.inl (mem_owners_vacate old)
    · exact kept (s.slot_mem_owners name) sent
  | blank parcel =>
    rcases mem_owners_wrap member with old | nothing
    · exact Or.inl old
    · exact Or.inr (Or.inl nothing)
  | receive name parcel =>
    rcases mem_owners_hold member with old | received
    · exact Or.inl (mem_owners_unwrap old)
    · exact kept (s.parcel_mem_owners parcel) received
  | release name =>
    rcases mem_owners_hold member with old | nothing
    · exact Or.inl old
    · exact Or.inr (Or.inl nothing)
  | reset name b =>
    rcases mem_owners_hold member with old | rfl
    · exact Or.inl old
    · exact Or.inr (Or.inr rfl)
  | clear name =>
    rcases mem_owners_hold member with old | nothing
    · exact Or.inl old
    · exact Or.inr (Or.inl nothing)
  | take name target =>
    rcases mem_owners_hold member with old | taken
    · rcases mem_owners_hold old with older | nothing
      · exact Or.inl older
      · exact Or.inr (Or.inl nothing)
    · exact kept (s.slot_mem_owners name) taken
  | swap name other =>
    rcases mem_owners_hold member with old | swapped
    · rcases mem_owners_hold old with older | here
      · exact Or.inl older
      · exact kept (s.slot_mem_owners other) here
    · exact kept (s.slot_mem_owners name) swapped
  | drop name => exact Or.inl (mem_owners_vacate member)

end Shelf

end Owners

namespace Erased

variable {φ ζ κ σ α β : Type}

def Step.brings : Step φ ζ κ σ α → Option (Triple φ ζ κ σ)
  | .move m => m.brings
  | _ => none

inductive Operation (φ ζ κ σ α : Type) where
  | null (slot : String)
  | make (slot : String) (c : Callee φ ζ κ σ)
  | fromParts (slot : String) (t : Triple φ ζ κ σ)
  | set (slot : String) (c : Callee φ ζ κ σ)
  | clear (slot : String)
  | take (slot target : String)
  | swap (slot other : String)
  | intoRaw (slot parcel : String)
  | fromRaw (slot parcel : String)
  | drop (slot : String)
  | call (slot : String) (args : α)
  | callRaw (parcel : String) (args : α)
  | callCaller (slot : String) (args : α)

namespace Operation

def step : Operation φ ζ κ σ α → Step φ ζ κ σ α
  | .null slot => .move (.put slot Owner.empty)
  | .make slot c => .move (.put slot c.erase)
  | .fromParts slot t => .move (.put slot t)
  | .set slot c => .move (.reset slot c.erase)
  | .clear slot => .move (.reset slot Owner.empty)
  | .take slot target => .move (.take slot target)
  | .swap slot other => .move (.swap slot other)
  | .intoRaw slot parcel => .move (.send slot parcel)
  | .fromRaw slot parcel => .move (.receive slot parcel)
  | .drop slot => .move (.drop slot)
  | .call slot args => .call slot args
  | .callRaw parcel args => .callParcel parcel args
  | .callCaller slot args => .callCaller slot args

def constructs : Operation φ ζ κ σ α → Option (Callee φ ζ κ σ)
  | .make _ c => some c
  | .set _ c => some c
  | _ => none

def adopts : Operation φ ζ κ σ α → Option (Triple φ ζ κ σ)
  | .fromParts _ t => some t
  | _ => none

/-- What an operation brings in is nothing, is made of a callee, or has parts that were at hand. -/
theorem of_brings {op : Operation φ ζ κ σ α} {t : Triple φ ζ κ σ}
    (brought : op.step.brings = some t) :
    t = Owner.empty ∨ (∃ c, op.constructs = some c ∧ t = c.erase) ∨ op.adopts = some t := by
  cases op with
  | null slot => exact Or.inl (Option.some.inj brought).symm
  | make slot c => exact Or.inr (Or.inl ⟨c, rfl, (Option.some.inj brought).symm⟩)
  | fromParts slot parts => exact Or.inr (Or.inr brought)
  | set slot c => exact Or.inr (Or.inl ⟨c, rfl, (Option.some.inj brought).symm⟩)
  | clear slot => exact Or.inl (Option.some.inj brought).symm
  | _ => cases brought

end Operation

def constructed (ops : List (Operation φ ζ κ σ α)) : List (Callee φ ζ κ σ) :=
  ops.filterMap Operation.constructs

variable [Runs φ ζ κ σ α β] [DecidableEq κ]

def run (s : Closures φ ζ κ σ) (ops : List (Operation φ ζ κ σ α)) : Closures φ ζ κ σ :=
  ops.foldl (fun s op => (step s op.step).1) s

/-- Whether all parts that closures are made of were taken from a closure that stood in a slot or a
parcel at some time before. -/
def PartsObtained (seen : List (Triple φ ζ κ σ)) (s : Closures φ ζ κ σ) :
    List (Operation φ ζ κ σ α) → Prop
  | [] => True
  | op :: rest =>
    (∀ t ∈ op.adopts, t ∈ seen ++ s.owners) ∧
      PartsObtained (seen ++ s.owners) (step s op.step).1 rest

instance decidablePartsObtained [DecidableEq φ] [DecidableEq ζ] [DecidableEq σ] :
    (seen : List (Triple φ ζ κ σ)) → (s : Closures φ ζ κ σ) → (ops : List (Operation φ ζ κ σ α)) →
      Decidable (PartsObtained seen s ops)
  | _, _, [] => inferInstanceAs (Decidable True)
  | seen, s, op :: rest =>
    have := decidablePartsObtained (seen ++ s.owners) (step s op.step).1 rest
    inferInstanceAs (Decidable ((∀ t ∈ op.adopts, t ∈ seen ++ s.owners) ∧
      PartsObtained (seen ++ s.owners) (step s op.step).1 rest))

theorem mem_owners_step {s : Closures φ ζ κ σ} {st : Step φ ζ κ σ α} {t : Triple φ ζ κ σ}
    (member : t ∈ (step s st).1.owners) :
    t ∈ s.owners ∨ t = Owner.empty ∨ st.brings = some t := by
  have touched : ∀ {name : String}, t ∈ (s.touch name).owners →
      t ∈ s.owners ∨ t = Owner.empty ∨ st.brings = some t := by
    intro name left
    rcases Shelf.mem_owners_hold left with old | rfl
    · exact Or.inl old
    · rcases s.slot_mem_owners name with nothing | old
      · exact Or.inr (Or.inl nothing)
      · exact Or.inl old
  cases st with
  | move m => exact Shelf.mem_owners_move member
  | call name args => exact touched member
  | callParcel name args =>
    rcases Shelf.mem_owners_wrap member with old | rfl
    · exact Or.inl old
    · rcases s.parcel_mem_owners name with nothing | old
      · exact Or.inr (Or.inl nothing)
      · exact Or.inl old
  | callCaller name args => exact touched member
  | display name => exact touched member
  | displayParcel name => exact Or.inl member

/-- Whether a triple is nothing or was made as a whole of one of the callees. -/
def Whole (made : List (Callee φ ζ κ σ)) (t : Triple φ ζ κ σ) : Prop :=
  t = Owner.empty ∨ ∃ c ∈ made, t = c.erase

omit [DecidableEq κ] in
theorem Whole.mono {made more : List (Callee φ ζ κ σ)} {t : Triple φ ζ κ σ}
    (whole : Whole made t) (grown : made ⊆ more) : Whole more t := by
  rcases whole with nothing | ⟨c, listed, made⟩
  · exact Or.inl nothing
  · exact Or.inr ⟨c, grown listed, made⟩

/-- Operations keep everything on a shelf whole, together with everything seen on it before: parts
that are taken up again are those of a closure that was whole. -/
theorem whole_run {s : Closures φ ζ κ σ} {seen : List (Triple φ ζ κ σ)}
    {made : List (Callee φ ζ κ σ)} {ops : List (Operation φ ζ κ σ α)}
    (obtained : PartsObtained seen s ops) (whole : ∀ t ∈ seen ++ s.owners, Whole made t) :
    ∀ t ∈ (run s ops).owners, Whole (made ++ constructed ops) t := by
  induction ops generalizing s seen made with
  | nil =>
    intro t member
    have now := whole t (List.mem_append_right _ member)
    exact now.mono (List.subset_append_left _ _)
  | cons op rest ih =>
    have after : ∀ t ∈ (seen ++ s.owners) ++ (step s op.step).1.owners,
        Whole (made ++ op.constructs.toList) t := by
      intro t member
      have before : t ∈ seen ++ s.owners → Whole (made ++ op.constructs.toList) t := fun old =>
        (whole t old).mono (List.subset_append_left _ _)
      rcases List.mem_append.mp member with old | now
      · exact before old
      · rcases mem_owners_step now with old | nothing | brought
        · exact before (List.mem_append_right _ old)
        · exact Or.inl nothing
        · rcases Operation.of_brings brought with nothing | ⟨c, new, rfl⟩ | adopted
          · exact Or.inl nothing
          · exact Or.inr ⟨c, by simp [new], rfl⟩
          · exact before (obtained.1 t adopted)
    have all := ih obtained.2 after
    have listed : made ++ op.constructs.toList ++ constructed rest =
        made ++ constructed (op :: rest) := by
      cases new : op.constructs <;> simp [constructed, new]
    rw [listed] at all
    exact all

theorem call_erase (c : Callee φ ζ κ σ) (args : α) :
    call c.erase.resource args = .ofResult (c.run args) := by
  cases c with
  | function f => rfl
  | stateless f => rfl
  | capturing f value => simp [call, Callee.erase, Caller.call, Callee.run]

omit [DecidableEq κ] in
theorem caller_erase (c : Callee φ ζ κ σ) : c.erase.resource.caller.isSome = true := by
  cases c <;> rfl

theorem reply_callCaller {s : Closures φ ζ κ σ} {name : String} {c : Callee φ ζ κ σ}
    (held : s.slot name = c.erase) (args : α) :
    (step s (.callCaller name args)).2.2 = .outcome (.ofResult (c.run args)) := by
  have called := call_erase c args
  obtain ⟨caller, bound⟩ := Option.isSome_iff_exists.mp (caller_erase c)
  simp only [call, bound] at called
  simp only [step, held, bound, called]

omit [Runs φ ζ κ σ α β] [DecidableEq κ] in
theorem parcel_send (s : Closures φ ζ κ σ) (name parcel : String) :
    (s.move (.send name parcel)).1.parcel parcel = s.slot name := by
  simp [Shelf.move, Shelf.parcel, Shelf.wrap]

theorem reply_sent (s : Closures φ ζ κ σ) (name parcel : String) (args : α) :
    (step (step s (.move (.send name parcel))).1 (.callParcel parcel args)).2.2 =
      .outcome (call (s.slot name).resource args) := by
  have sent : (step s (.move (.send name parcel))).1.parcel parcel = s.slot name :=
    parcel_send s name parcel
  show Reply.outcome (call ((step s (.move (.send name parcel))).1.parcel parcel).resource args) = _
  rw [sent]

/-- After any operations, what stands in a slot or a parcel is nothing at all, or a caller, a state
and a deleter that were made together of one callee. A slot is bound just if it holds such a
closure. Then calling it, calling its plain form and calling its caller with its state all come to
running that callee at the boundary; calling any other slot ends the process. -/
theorem closures_stay_whole (ops : List (Operation φ ζ κ σ α))
    (obtained : PartsObtained [] {} ops) :
    let s : Closures φ ζ κ σ := run {} ops
    (∀ name, Whole (constructed ops) (s.slot name) ∧ Whole (constructed ops) (s.parcel name)) ∧
      (∀ name (c : Callee φ ζ κ σ), s.slot name = c.erase → ∀ (args : α) (parcel : String),
        (step s (.call name args)).2.2 = .outcome (.ofResult (c.run args)) ∧
          (step (step s (.move (.send name parcel))).1 (.callParcel parcel args)).2.2 =
            .outcome (.ofResult (c.run args)) ∧
          (step s (.callCaller name args)).2.2 = .outcome (.ofResult (c.run args))) ∧
      (∀ name (c : Callee φ ζ κ σ), s.parcel name = c.erase → ∀ args : α,
        (step s (.callParcel name args)).2.2 = .outcome (.ofResult (c.run args))) ∧
      ∀ name,
        ((s.slot name).resource.caller.isSome = true ↔
          ∃ c ∈ constructed ops, s.slot name = c.erase) ∧
        ((¬ ∃ c ∈ constructed ops, s.slot name = c.erase) → ∀ (args : α) (parcel : String),
          (step s (.call name args)).2.2 =
              .outcome (.fatal (Fatal.because "called an empty closure")) ∧
            (step (step s (.move (.send name parcel))).1 (.callParcel parcel args)).2.2 =
              .outcome (.fatal (Fatal.because "called an empty closure"))) := by
  intro s
  have owners : ∀ t ∈ s.owners, Whole (constructed ops) t := by
    have start : ∀ t ∈ [] ++ Shelf.owners ({} : Closures φ ζ κ σ), Whole [] t := by
      intro t member
      cases member
    exact whole_run obtained start
  have slots : ∀ name, Whole (constructed ops) (s.slot name) := by
    intro name
    rcases s.slot_mem_owners name with nothing | listed
    · exact Or.inl nothing
    · exact owners _ listed
  have parcels : ∀ name, Whole (constructed ops) (s.parcel name) := by
    intro name
    rcases s.parcel_mem_owners name with nothing | listed
    · exact Or.inl nothing
    · exact owners _ listed
  refine ⟨fun name => ⟨slots name, parcels name⟩, ?_, ?_, ?_⟩
  · intro name c held args parcel
    have called : call (s.slot name).resource args = .ofResult (c.run args) := by
      rw [held]
      exact call_erase c args
    refine ⟨congrArg Reply.outcome called, ?_, reply_callCaller held args⟩
    rw [reply_sent, called]
  · intro name c held args
    have called : call (s.parcel name).resource args = .ofResult (c.run args) := by
      rw [held]
      exact call_erase c args
    exact congrArg Reply.outcome called
  · intro name
    constructor
    · constructor
      · intro bound
        rcases slots name with nothing | made
        · rw [nothing] at bound
          cases bound
        · exact made
      · rintro ⟨c, -, held⟩
        rw [held]
        exact caller_erase c
    · intro unmade args parcel
      have nothing : s.slot name = Owner.empty := (slots name).resolve_right unmade
      have ends : call (s.slot name).resource args =
          (.fatal (Fatal.because "called an empty closure") : Outcome β) := by
        rw [nothing]
        rfl
      refine ⟨congrArg Reply.outcome ends, ?_⟩
      rw [reply_sent, ends]

end Erased

namespace Closure

def exchange : List (Erased.Operation Function Stateless Capturing Int64 (List Int64)) :=
  [.make "f" (.function .sum), .make "g" (.capturing .counted 3), .swap "f" "g",
    .intoRaw "g" "raw", .fromParts "h" (Erased.Callee.function .sum).erase,
    .set "k" (.stateless .double), .take "f" "k", .callCaller "k" [4]]

theorem exchange_whole :
    Erased.PartsObtained [] {} exchange ∧
      (Erased.step (Erased.run {} exchange) (.call "k" [4, 1])).2.2 = .outcome (.value 9) ∧
      (Erased.step (Erased.run {} exchange) (.callParcel "raw" [4, 1])).2.2 = .outcome (.value 6) ∧
      (Erased.step (Erased.run {} exchange) (.call "f" [4, 1])).2.2 =
        .outcome (.fatal (Fatal.because "called an empty closure")) := by
  have obtained : Erased.PartsObtained [] {} exchange := by decide
  obtain ⟨-, slots, parcels, bound⟩ := Erased.closures_stay_whole exchange obtained
  have added := (slots "k" (.capturing .counted 3) (by decide) [4, 1] "raw").1
  have summed := parcels "raw" (.function .sum) (by decide) [4, 1]
  have ended := ((bound "f").2 (by decide) [4, 1] "raw").1
  refine ⟨obtained, ?_, ?_, ended⟩
  · rw [added]
    decide
  · rw [summed]
    decide

end Closure

end Bindery.Ownership
