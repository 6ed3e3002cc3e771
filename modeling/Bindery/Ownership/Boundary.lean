set_option autoImplicit false
set_option relaxedAutoImplicit false

/-!
The library boundary. A failure that cannot be reported to the other side ends the process, and
nothing that is thrown on one side reaches the other.
-/

namespace Bindery.Ownership

inductive Payload where
  | text (s : String)
  | other
  deriving DecidableEq, Repr

def Payload.message : Payload → String
  | .text s => s
  | .other => "<non-string payload>"

/-- The end of the process, with the errors that are written before it. -/
structure Fatal where
  errors : List String
  deriving DecidableEq, Repr

namespace Fatal

def because (reason : String) : Fatal := ⟨["vellum: fatal boundary error: " ++ reason]⟩

def escaped (p : Payload) : Fatal :=
  ⟨("vellum: panic escaped a boundary call: " ++ p.message) ::
    (because "panic escaped a boundary call").errors⟩

end Fatal

/-- Runs a callee at the boundary: its value is handed on, and what it throws ends the process. -/
def guarded {α : Type} (result : Except Payload α) : Except Fatal α := result.mapError Fatal.escaped

inductive Throwing where
  | literal
  | formatted
  | other
  deriving DecidableEq, Repr

def Throwing.run (how : Throwing) (value : Int64) : Except Payload Int64 :=
  if value ≤ 0 then .ok value
  else
    match how with
    | .literal => .error (.text "boom")
    | .formatted => .error (.text ("boom " ++ toString value.toInt))
    | .other => .error .other

end Bindery.Ownership
