import Bindery.Ownership.Fault
import Bindery.Ownership.Owner

set_option autoImplicit false
set_option relaxedAutoImplicit false

/-!
Views of elements. A view of nothing should have length zero, but its maker can say otherwise, and
every access has to cope with that.
-/

namespace Bindery.Ownership

/-- A view of a block of elements, or of nothing with a stated length. -/
inductive View (α : Type) where
  | null (len : Nat)
  | block (values : List α)
  deriving DecidableEq, Repr

namespace View

variable {α : Type}

def len : View α → Nat
  | .null n => n
  | .block values => values.length

def isEmpty (v : View α) : Bool := v.len == 0

def isNull : View α → Bool
  | .null _ => true
  | .block _ => false

def toList : View α → Except Breach (List α)
  | .null 0 => .ok []
  | .null (_ + 1) => .error .nullView
  | .block values => .ok values

def checkRange (index len : Nat) : Except OutOfRange Unit :=
  if index < len then .ok () else .error ⟨index, len⟩

def at? (v : View α) (index : Nat) : Except Fault α :=
  match checkRange index v.len with
  | .error e => .error (.outOfRange e)
  | .ok () =>
    match v with
    | .null _ => .error (.breach .nullView)
    | .block values =>
      match values[index]? with
      | some a => .ok a
      | none => .error (.outOfRange ⟨index, values.length⟩)

/-- The element at an index that the caller promises to be below the length. -/
def atUnchecked (v : View α) (index : Nat) : Except Breach α :=
  match v with
  | .null n => if index < n then .error .nullView else .error .unchecked
  | .block values =>
    match values[index]? with
    | some a => .ok a
    | none => .error .unchecked

def write? (v : View α) (index : Nat) (a : α) : Except Fault (α × View α) :=
  match v.at? index, v with
  | .ok old, .block values => .ok (old, .block (values.set index a))
  | .ok old, .null n => .ok (old, .null n)
  | .error e, _ => .error e

/-- Writes an element by indexing the elements, where an index beyond the length is a breach. -/
def index (v : View α) (index : Nat) (a : α) : Except Breach (α × View α) :=
  match v.toList with
  | .error b => .error b
  | .ok values =>
    match values[index]? with
    | some old => .ok (old, .block (values.set index a))
    | none => .error (.indexed ⟨index, values.length⟩)

def reverse (v : View α) : Except Breach (List α × View α) :=
  match v.toList with
  | .error b => .error b
  | .ok values => .ok (values.reverse, if v.isNull then v else .block values.reverse)

def render? (isMutable : Bool) : View α → Option String
  | .null len =>
    some ((if isMutable then "SliceMut" else "Slice") ++ " \x7b data: 0x0, len: " ++ toString len ++
      " \x7d")
  | .block _ => none

instance : Resource (View α) where
  empty := .null 0
  isHeld v := !v.isNull

end View

end Bindery.Ownership
