import Bindery.Ownership.Erased

set_option autoImplicit false
set_option relaxedAutoImplicit false

/-!
Closures over numbers, made of a few functions and callables that weigh their arguments.
-/

namespace Bindery.Ownership.Closure

def weighFrom (weight : Int64) : List Int64 → Int64
  | [] => 0
  | a :: rest => weight * a + weighFrom (weight + 1) rest

/-- The weighted sum of arguments that every callable computes from: the first counts once, the
second twice, and so on. -/
def weigh (args : List Int64) : Int64 := weighFrom 1 args

inductive Function where
  | sum
  | negate
  | throwing
  deriving DecidableEq, Repr

def Function.run (w : Int64) : Function → Except Payload Int64
  | .sum => .ok w
  | .negate => .ok (-w)
  | .throwing => Throwing.literal.run w

inductive Stateless where
  | double
  | item
  | throwing (how : Throwing)
  deriving DecidableEq, Repr

def Stateless.run (w : Int64) : Stateless → Except Payload Int64
  | .double => .ok (2 * w)
  | .item => .ok w
  | .throwing how => how.run w

inductive Capturing where
  | counted
  | plain
  deriving DecidableEq, Repr

def Capturing.run (w offset : Int64) : Capturing → Int64
  | .counted => w + offset
  | .plain => w * offset

instance : Erased.Runs Function Stateless Capturing Int64 (List Int64) Int64 where
  function f args := f.run (weigh args)
  stateless f args := f.run (weigh args)
  capturing f offset args := .ok (f.run (weigh args) offset)

abbrev Callable := Erased.Callable Function Stateless Capturing Int64

abbrev StateDeleter := Capturing

abbrev Closures := Shelf Callable StateDeleter

abbrev Triple := Owner Callable StateDeleter

inductive Kind where
  | null
  | function (f : Function)
  | stateless (f : Stateless)
  | capturing (f : Capturing) (offset : Int64)
  /-- The caller of plain functions without a function. -/
  | nullState
  /-- A deleter without a state. -/
  | nullBoxed
  deriving DecidableEq, Repr

def Kind.make : Kind → Triple
  | .null => Owner.empty
  | .function f => (Erased.Callee.function f).erase
  | .stateless f => (Erased.Callee.stateless f).erase
  | .capturing f offset => (Erased.Callee.capturing f offset).erase
  | .nullState => ⟨⟨some .function, none⟩, none⟩
  | .nullBoxed => ⟨⟨none, none⟩, some .plain⟩

/-- What is reported when a deleter runs: a counted object in the box is destroyed. -/
def report (d : Deletion Callable StateDeleter) : List String :=
  match d.deleter, d.resource.state with
  | .counted, some (.captured .counted offset) => ["drop " ++ toString offset.toInt]
  | _, _ => []

abbrev Step := Erased.Step Function Stateless Capturing Int64 (List Int64)

abbrev Reply := Erased.Reply Int64

def step (s : Closures) (st : Step) : Closures × List String × Reply :=
  let (next, deletions, reply) := Erased.step s st
  (next, deletions.flatMap report, reply)

end Bindery.Ownership.Closure
