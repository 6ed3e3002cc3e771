import Bindery.Description.Items

set_option autoImplicit false
set_option relaxedAutoImplicit false

/-!
The order in which structs are laid out. A struct that contains another by value needs the other's
layout first. Structs are numbered by their place in the description, and the graph of who needs
whom is a list of such numbers for each struct.
-/

namespace Bindery.LayoutOrder

/-- For each struct the structs whose layout it needs, in ascending order. -/
abbrev Graph := List (List Nat)

def needs (graph : Graph) (i : Nat) : List Nat := graph[i]?.getD []

def isReady (graph : Graph) (placed : List Nat) (i : Nat) : Bool :=
  !placed.contains i && (needs graph i).all fun d => placed.contains d

def next? (graph : Graph) (placed : List Nat) : Option Nat :=
  (List.range graph.length).find? (isReady graph placed)

/-- Places as many structs as asked for, each time the first one that is ready; if none is, the ones
placed so far are returned as the failure. -/
def arrange (graph : Graph) : (remaining : Nat) → (placed : List Nat) →
    Except (List Nat) (List Nat)
  | 0, placed => .ok placed
  | remaining + 1, placed =>
    match next? graph placed with
    | none => .error placed
    | some i => arrange graph remaining (placed ++ [i])

/-- From a struct that cannot be placed, follows the first need that is not placed either until a
struct comes up again. -/
def follow (graph : Graph) (placed : List Nat) : (steps : Nat) → (seen : List Nat) → Nat → Nat
  | 0, _, i => i
  | steps + 1, seen, i =>
    if seen.contains i then i
    else
      match (needs graph i).find? fun d => !placed.contains d with
      | none => i
      | some d => follow graph placed steps (i :: seen) d

/-- A struct that contains itself, found when nothing more can be placed. -/
def onCycle (graph : Graph) (placed : List Nat) : Nat :=
  let start := (List.range graph.length).find? fun i => !placed.contains i
  follow graph placed (graph.length + 1) [] (start.getD 0)

/-- The least order that places every struct after what it needs, or a struct that contains
itself. -/
def order (graph : Graph) : Except Nat (List Nat) :=
  match arrange graph graph.length [] with
  | .ok placed => .ok placed
  | .error placed => .error (onCycle graph placed)

end Bindery.LayoutOrder

namespace Bindery

def Items.structIndex? (items : Items) (name : String) : Option Nat :=
  items.structs.findIdx? fun s => s.name == name

/-- The structs that a struct contains by value, in ascending order. -/
def Items.containedIn (items : Items) (s : Struct) : List Nat :=
  let direct := (s.fields.filterMap fun f => f.ty.byValueName).filterMap items.structIndex?
  (List.range items.structs.length).filter fun i => direct.contains i

def Items.layoutGraph (items : Items) : LayoutOrder.Graph :=
  items.structs.map items.containedIn

/-- The order in which the structs of a description are laid out, or the name of a struct that
contains itself. -/
def Items.layoutOrder (items : Items) : Except String (List Nat) :=
  match LayoutOrder.order items.layoutGraph with
  | .ok order => .ok order
  | .error i => .error ((items.structs[i]?.map Struct.name).getD "")

end Bindery
