import Bindery.Json.Complaint

set_option autoImplicit false
set_option relaxedAutoImplicit false

/-!
Passing over a value that nobody asked for. Only the open brackets are kept, so values may be nested
to any depth here.
-/

namespace Bindery.Json.Skip

inductive Frame where
  | list
  | object
  deriving DecidableEq

/-- What must come next inside a value that is passed over. -/
inductive Awaiting where
  | value
  | valueOrEnd
  | key
  | keyOrEnd
  | colon
  | commaOrEnd
  deriving DecidableEq

/-- Where passing over a value stands. -/
inductive State where
  | reading (awaiting : Awaiting) (frames : List Frame)
  | done

/-- The state after a complete value inside the given brackets. -/
def closed : List Frame → State
  | [] => .done
  | frames => .reading .commaOrEnd frames

private def skipMalformed {α : Type} : Except ReadError α := .error (.fault .malformed)

def valueStep (frames : List Frame) : Token → Except ReadError State
  | .word _ none => .ok (closed frames)
  | .word _ (some f) => .error (.fault f)
  | .string _ => .ok (closed frames)
  | .number _ => .ok (closed frames)
  | .mark .openBracket => .ok (.reading .valueOrEnd (.list :: frames))
  | .mark .openBrace => .ok (.reading .keyOrEnd (.object :: frames))
  | _ => skipMalformed

def keyStep (frames : List Frame) : Token → Except ReadError State
  | .string _ => .ok (.reading .colon frames)
  | _ => skipMalformed

def endStep : List Frame → Token → Except ReadError State
  | .list :: outer, .mark .comma => .ok (.reading .value (.list :: outer))
  | .list :: outer, .mark .closeBracket => .ok (closed outer)
  | .object :: outer, .mark .comma => .ok (.reading .key (.object :: outer))
  | .object :: outer, .mark .closeBrace => .ok (closed outer)
  | _, _ => skipMalformed

def step (awaiting : Awaiting) (frames : List Frame) (t : Token) : Except ReadError State :=
  match t, awaiting with
  | .halt f, _ => .error (.fault f)
  | t, .value => valueStep frames t
  | .mark .closeBracket, .valueOrEnd => .ok (closed frames.tail)
  | t, .valueOrEnd => valueStep frames t
  | t, .key => keyStep frames t
  | .mark .closeBrace, .keyOrEnd => .ok (closed frames.tail)
  | t, .keyOrEnd => keyStep frames t
  | .mark .colon, .colon => .ok (.reading .value frames)
  | _, .colon => skipMalformed
  | t, .commaOrEnd => endStep frames t

/-- Passes over tokens until the value is complete. -/
def run : State → List Token → Except ReadError (List Token)
  | .done, ts => .ok ts
  | .reading _ _, [] => .error (.fault .ended)
  | .reading awaiting frames, t :: ts =>
    match step awaiting frames t with
    | .error e => .error e
    | .ok next => run next ts

def one (ts : List Token) : Except ReadError (List Token) := run (.reading .value []) ts

end Bindery.Json.Skip
