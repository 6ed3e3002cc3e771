import Bindery.Ownership.Boundary
import Bindery.Ownership.Shelf

set_option autoImplicit false
set_option relaxedAutoImplicit false

/-!
Callables without their types. A closure is a caller, the state it is called with, and a deleter for
the state. The three are made together and belong together; the caller is what knows how to read the
state. Which callables there are and what they take and return is left open: `φ` are the plain
functions, `ζ` the code that captures nothing, `κ` the code that captures a value of `σ`, and they
turn arguments of `α` into values of `β`.
-/

namespace Bindery.Ownership.Erased

variable {φ ζ κ σ α β : Type}

inductive Callee (φ ζ κ σ : Type) where
  | function (f : φ)
  | stateless (f : ζ)
  | capturing (f : κ) (value : σ)
  deriving DecidableEq, Repr

/-- How callees run: they return a value or throw. -/
class Runs (φ ζ κ σ : Type) (α β : outParam Type) where
  function : φ → α → Except Payload β
  stateless : ζ → α → Except Payload β
  capturing : κ → σ → α → Except Payload β

def Callee.run [Runs φ ζ κ σ α β] (args : α) : Callee φ ζ κ σ → Except Payload β
  | .function f => Runs.function ζ κ σ f args
  | .stateless f => Runs.stateless φ κ σ f args
  | .capturing f value => Runs.capturing φ ζ f value args

inductive Caller (ζ κ : Type) where
  | function
  /-- Runs code that captures nothing, without looking at the state. -/
  | stateless (f : ζ)
  | capturing (f : κ)
  deriving DecidableEq, Repr

inductive State (φ κ σ : Type) where
  | function (f : φ)
  | marker
  | captured (f : κ) (value : σ)
  deriving DecidableEq, Repr

structure Callable (φ ζ κ σ : Type) where
  caller : Option (Caller ζ κ)
  state : Option (State φ κ σ)
  deriving DecidableEq, Repr

instance : Resource (Callable φ ζ κ σ) where
  empty := ⟨none, none⟩
  isHeld _ := true

/-- A closure or its plain form. The deleter of a boxed state is that of the code that captured
it. -/
abbrev Triple (φ ζ κ σ : Type) := Owner (Callable φ ζ κ σ) κ

abbrev Closures (φ ζ κ σ : Type) := Shelf (Callable φ ζ κ σ) κ

/-- Makes a closure: a plain function is its own state, code that captures nothing needs no state,
and a captured value is boxed. -/
def Callee.erase : Callee φ ζ κ σ → Triple φ ζ κ σ
  | .function f => ⟨⟨some .function, some (.function f)⟩, none⟩
  | .stateless f => ⟨⟨some (.stateless f), some .marker⟩, none⟩
  | .capturing f value => ⟨⟨some (.capturing f), some (.captured f value)⟩, some f⟩

inductive Outcome (β : Type) where
  | value (v : β)
  | fatal (f : Fatal)
  /-- The state does not belong to the caller. -/
  | mismatch
  deriving DecidableEq, Repr

def Outcome.ofResult (result : Except Payload β) : Outcome β :=
  match guarded result with
  | .ok v => .value v
  | .error f => .fatal f

section Calls

variable [Runs φ ζ κ σ α β] [DecidableEq κ]

def Caller.call (state : Option (State φ κ σ)) (args : α) : Caller ζ κ → Outcome β
  | .function =>
    match state with
    | none => .fatal (Fatal.because "closure state is null")
    | some (.function f) => .ofResult (Runs.function ζ κ σ f args)
    | some _ => .mismatch
  | .stateless f =>
    match state with
    | some .marker => .ofResult (Runs.stateless φ κ σ f args)
    | _ => .mismatch
  | .capturing f =>
    match state with
    | some (.captured g value) =>
      if f = g then .ofResult (Runs.capturing φ ζ f value args) else .mismatch
    | _ => .mismatch

/-- Calls a closure; an empty one ends the process. -/
def call (c : Callable φ ζ κ σ) (args : α) : Outcome β :=
  match c.caller with
  | some caller => caller.call c.state args
  | none => .fatal (Fatal.because "called an empty closure")

end Calls

inductive Step (φ ζ κ σ α : Type) where
  | move (m : Move (Callable φ ζ κ σ) κ)
  | call (slot : String) (args : α)
  | callParcel (parcel : String) (args : α)
  | callCaller (slot : String) (args : α)
  | display (slot : String)
  | displayParcel (parcel : String)

inductive Reply (β : Type) where
  | nothing
  | outcome (o : Outcome β)
  | text (s : Option String)
  deriving DecidableEq, Repr

def renderFlag (b : Bool) : String := if b then "true" else "false"

def render? (t : Triple φ ζ κ σ) : Option String :=
  if t.resource.state.isNone then
    some ("Closure \x7b bound: " ++ renderFlag t.resource.caller.isSome ++
      ", state: 0x0, boxed: " ++ renderFlag t.deleter.isSome ++ " \x7d")
  else none

def renderParcel? (t : Triple φ ζ κ σ) : Option String :=
  if t.resource.state.isNone && t.deleter.isNone then
    some ("RawClosure \x7b bound: " ++ renderFlag t.resource.caller.isSome ++
      ", state: 0x0, deleter: None \x7d")
  else none

def step [Runs φ ζ κ σ α β] [DecidableEq κ] (s : Closures φ ζ κ σ) :
    Step φ ζ κ σ α → Closures φ ζ κ σ × List (Deletion (Callable φ ζ κ σ) κ) × Reply β
  | .move m =>
    let (next, deletions) := s.move m
    (next, deletions, .nothing)
  | .call name args => (s.touch name, [], .outcome (call (s.slot name).resource args))
  | .callParcel name args =>
    (s.wrap name (s.parcel name), [], .outcome (call (s.parcel name).resource args))
  | .callCaller name args =>
    let callable := (s.slot name).resource
    (s.touch name, [],
      match callable.caller with
      | some caller => .outcome (caller.call callable.state args)
      | none => .nothing)
  | .display name => (s.touch name, [], .text (render? (s.slot name)))
  | .displayParcel name => (s, [], .text (renderParcel? (s.parcel name)))

end Bindery.Ownership.Erased
