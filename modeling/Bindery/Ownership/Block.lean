import Bindery.Ownership.Pointer
import Bindery.Ownership.View

set_option autoImplicit false
set_option relaxedAutoImplicit false

/-!
Owned blocks of counted objects.
-/

namespace Bindery.Ownership.Block

abbrev Blocks := Shelf (View Int64) Deleter

def boxed (values : List Int64) : Owner (View Int64) Deleter := ⟨.block values, some .box⟩

def renderValues (values : List Int64) : String :=
  "[" ++ ", ".intercalate (values.map fun v => toString v.toInt) ++ "]"

/-- What is reported when a deleter runs. -/
def report (d : Deletion (View Int64) Deleter) : List String :=
  match d.resource, d.deleter with
  | .null _, _ => []
  | .block values, .box => values.map destroyed
  | .block values, .custom => ("delete " ++ renderValues values) :: values.map destroyed

inductive Step where
  | move (m : Move (View Int64) Deleter)
  | fill (slot : String) (value : Int64) (count : Nat)
  | read (slot : String) (index : Nat)
  | write (slot : String) (index : Nat) (value : Int64)
  | toList (slot : String)
  | intoList (slot : String)
  | sum (slot : String)
  | isNull (slot : String)
  | display (slot : String)
  | displayParcel (parcel : String)

inductive Reply where
  | nothing
  | view (v : View Int64)
  | value (v : Except Fault Int64)
  | values (vs : Except Breach (List Int64))
  | flag (b : Bool)
  | text (s : Except Breach (Option String))

/-- A parcel as text, if nothing in it depends on where a block is. -/
def renderParcel? (o : Owner (View Int64) Deleter) : Option String :=
  match o.resource, o.deleter with
  | .null len, none =>
    some ("RawOwnedSlice \x7b slice: SliceMut \x7b data: 0x0, len: " ++ toString len ++
      " \x7d, deleter: None \x7d")
  | _, _ => none

def moveReply (s : Blocks) : Move (View Int64) Deleter → Reply
  | .release name => .view (s.slot name).resource
  | _ => .nothing

def moved (s : Blocks) (m : Move (View Int64) Deleter) : Blocks × List String × Reply :=
  let (next, deletions) := s.move m
  (next, deletions.flatMap report, moveReply s m)

/-- Takes a step: the shelf after it, what is reported, and the reply. -/
def step (s : Blocks) : Step → Blocks × List String × Reply
  | .move m => moved s m
  | .fill name value count =>
    let (next, reports, reply) := moved s (.put name (boxed (List.replicate count value)))
    (next, if count = 0 then destroyed value :: reports else reports, reply)
  | .read name index => (s.touch name, [], .value ((s.slot name).resource.at? index))
  | .write name index value =>
    let o := s.slot name
    match o.resource.index index value with
    | .ok (old, view) => (s.hold name { o with resource := view }, [], .value (.ok old))
    | .error b => (s.touch name, [], .value (.error (.breach b)))
  | .toList name => (s.touch name, [], .values (s.slot name).resource.toList)
  | .intoList name =>
    let elements := (s.slot name).resource.toList
    let (next, reports, _) := moved s (.drop name)
    match elements with
    | .ok values => (next, reports ++ values.map destroyed, .values (.ok values))
    | .error b => (next, reports, .values (.error b))
  | .sum name =>
    (s.touch name, [],
      match (s.slot name).resource.toList with
      | .ok values => .value (.ok (values.foldl (· + ·) 0))
      | .error b => .value (.error (.breach b)))
  | .isNull name => (s.touch name, [], .flag (s.slot name).resource.isNull)
  | .display name =>
    (s.touch name, [], .text ((s.slot name).resource.toList.map fun vs => some (renderValues vs)))
  | .displayParcel name => (s, [], .text (.ok (renderParcel? (s.parcel name))))

end Bindery.Ownership.Block
