set_option autoImplicit false
set_option relaxedAutoImplicit false

/-!
Owners: a resource together with the deleter that frees it. Whoever holds an owner frees its
resource at most once, and only through its own deleter.
-/

namespace Bindery.Ownership

/-- What an owner can hold: a value that stands for nothing at all, and whether there is anything
for a deleter to free. -/
class Resource (ρ : Type) where
  empty : ρ
  isHeld : ρ → Bool

structure Owner (ρ δ : Type) where
  resource : ρ
  deleter : Option δ
  deriving DecidableEq, Repr

structure Deletion (ρ δ : Type) where
  deleter : δ
  resource : ρ
  deriving DecidableEq, Repr

namespace Owner

variable {ρ δ : Type} [Resource ρ]

def empty : Owner ρ δ := ⟨Resource.empty, none⟩

/-- The deletions when an owner goes away: its deleter runs once if it is set and there is anything
to free. -/
def free (o : Owner ρ δ) : List (Deletion ρ δ) :=
  match o.deleter with
  | some d => if Resource.isHeld o.resource then [⟨d, o.resource⟩] else []
  | none => []

end Owner

end Bindery.Ownership
