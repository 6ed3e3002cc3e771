import Bindery.Toml.Value

set_option autoImplicit false
set_option relaxedAutoImplicit false

/-!
Putting tables together from assignments and sections. Each table is defined in one place only: a
header may fill in a table that other headers imply, and dotted keys may add to a table that dotted
keys made.
-/

namespace Bindery.Toml

/-- A dotted key: the keys of the tables it leads through, and the last one. -/
structure KeyPath where
  parents : List String
  name : String
  deriving DecidableEq, Repr

structure Assignment where
  path : KeyPath
  value : Value

structure Section where
  path : KeyPath
  isArray : Bool
  assignments : List Assignment

/-- Changes the table that keys lead to. Missing tables on the way are made with the given origin;
an array of tables leads to its last one. -/
def within (made : Origin) (f : Origin → Entries → Option Entries) :
    List String → Origin → Entries → Option Entries
  | [], origin, entries => f origin entries
  | key :: keys, _, entries =>
    match entries.get? key with
    | none => (within made f keys made []).map fun inner => entries.set key (.table made inner)
    | some (.table .inline _) => none
    | some (.table origin inner) =>
      if made = .dotted ∧ origin = .header then none
      else (within made f keys origin inner).map fun inner => entries.set key (.table origin inner)
    | some (.tables elements) =>
      match elements.getLast? with
      | none => none
      | some inner =>
        (within made f keys .header inner).map fun inner =>
          entries.set key (.tables (elements.dropLast ++ [inner]))
    | some _ => none

def assign (own : Origin) (entries : Entries) (a : Assignment) : Option Entries :=
  within .dotted
    (fun origin inner =>
      if (origin == .dotted) == a.path.parents.isEmpty || inner.contains a.path.name then none
      else some (inner.set a.path.name a.value))
    a.path.parents own entries

def assignAll (own : Origin) (entries : Entries) : List Assignment → Option Entries
  | [] => some entries
  | a :: rest =>
    match assign own entries a with
    | none => none
    | some entries => assignAll own entries rest

/-- What a table starts from when its header comes, if it may have a header. -/
def start? : Option Value → Option Entries
  | none => some []
  | some (.table .implied entries) => some entries
  | some _ => none

def addSection (root : Entries) (s : Section) : Option Entries :=
  within .implied
    (fun _ entries =>
      if s.isArray then
        match entries.get? s.path.name with
        | none => (assignAll .header [] s.assignments).map fun body =>
          entries.set s.path.name (.tables [body])
        | some (.tables elements) => (assignAll .header [] s.assignments).map fun body =>
          entries.set s.path.name (.tables (elements ++ [body]))
        | some _ => none
      else
        match start? (entries.get? s.path.name) with
        | none => none
        | some begun => (assignAll .header begun s.assignments).map fun body =>
          (entries.erase s.path.name).set s.path.name (.table .header body))
    s.path.parents .header root

def addSections (root : Entries) : List Section → Option Entries
  | [] => some root
  | s :: rest =>
    match addSection root s with
    | none => none
    | some root => addSections root rest

end Bindery.Toml
