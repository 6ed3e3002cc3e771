import Bindery.Ownership.Shelf

set_option autoImplicit false
set_option relaxedAutoImplicit false

/-!
Owned pointers to one counted object each. A counted object reports when it is destroyed.
-/

namespace Bindery.Ownership

inductive Deleter where
  | box
  /-- Reports what is freed and then destroys it. -/
  | custom
  deriving DecidableEq, Repr

def destroyed (value : Int64) : String := "drop " ++ toString value.toInt

namespace Pointer

/-- An object, which is known by its value, or nothing. -/
abbrev Pointee := Option Int64

instance : Resource Pointee where
  empty := none
  isHeld := Option.isSome

abbrev Pointers := Shelf Pointee Deleter

def boxed (value : Int64) : Owner Pointee Deleter := ⟨some value, some .box⟩

def report (d : Deletion Pointee Deleter) : List String :=
  match d.resource, d.deleter with
  | none, _ => []
  | some v, .box => [destroyed v]
  | some v, .custom => ["delete " ++ toString v.toInt, destroyed v]

inductive Step where
  | move (m : Move Pointee Deleter)
  | write (slot : String) (value : Int64)
  | isNull (slot : String)
  | display (slot : String)
  | displayParcel (parcel : String)

inductive Reply where
  | nothing
  | value (v : Pointee)
  | flag (b : Bool)
  | text (s : Option String)
  deriving DecidableEq, Repr

def render (o : Owner Pointee Deleter) : String :=
  match o.resource with
  | some v => "OwnedPtr(Some(" ++ toString v.toInt ++ "))"
  | none => "OwnedPtr(None)"

def renderParcel? (o : Owner Pointee Deleter) : Option String :=
  if o.resource.isNone && o.deleter.isNone then
    some "RawOwnedPtr \x7b data: 0x0, deleter: None \x7d"
  else none

def moveReply (s : Pointers) : Move Pointee Deleter → Reply
  | .release name => .value (s.slot name).resource
  | _ => .nothing

def step (s : Pointers) : Step → Pointers × List String × Reply
  | .move m =>
    let (next, deletions) := s.move m
    (next, deletions.flatMap report, moveReply s m)
  | .write name value =>
    let o := s.slot name
    (s.hold name { o with resource := o.resource.map fun _ => value }, [], .value o.resource)
  | .isNull name => (s.touch name, [], .flag (s.slot name).resource.isNone)
  | .display name => (s.touch name, [], .text (some (render (s.slot name))))
  | .displayParcel name => (s, [], .text (renderParcel? (s.parcel name)))

end Pointer

end Bindery.Ownership
