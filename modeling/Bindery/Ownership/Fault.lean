set_option autoImplicit false
set_option relaxedAutoImplicit false

/-!
What goes wrong when elements are accessed.
-/

namespace Bindery.Ownership

structure OutOfRange where
  index : Nat
  len : Nat
  deriving DecidableEq, Repr

def OutOfRange.message (e : OutOfRange) : String :=
  "index " ++ toString e.index ++ " is out of range for a slice of length " ++ toString e.len

/-- A breach of a contract between caller and callee. -/
inductive Breach where
  | unchecked
  /-- A view of nothing is said to have elements. -/
  | nullView
  | indexed (e : OutOfRange)
  deriving DecidableEq, Repr

def Breach.message : Breach → String
  | .unchecked => "tried to index out-of-bounds of a slice"
  | .nullView => "null slice with non-zero length"
  | .indexed e =>
    "index out of bounds: the len is " ++ toString e.len ++ " but the index is " ++ toString e.index

/-- Why an access fails: its own range check, or a breach. -/
inductive Fault where
  | outOfRange (e : OutOfRange)
  | breach (b : Breach)
  deriving DecidableEq, Repr

end Bindery.Ownership
