import Bindery.Description.Ty

set_option autoImplicit false
set_option relaxedAutoImplicit false

/-!
Interface descriptions: complete structs, abstract structs, which are only ever pointed to, and
functions.
-/

namespace Bindery

structure Field where
  name : String
  ty : Ty
  docs : List String := []
  deriving DecidableEq

structure Struct where
  name : String
  docs : List String := []
  fields : List Field := []
  deriving DecidableEq

/-- A struct whose fields are hidden from the other side. -/
structure AbstractStruct where
  name : String
  docs : List String := []
  deriving DecidableEq

structure Param where
  name : String
  ty : Ty
  deriving DecidableEq

structure Function where
  name : String
  docs : List String := []
  params : List Param := []
  returns : Option Ty := none
  deriving DecidableEq

structure Items where
  structs : List Struct := []
  abstractStructs : List AbstractStruct := []
  functions : List Function := []
  deriving DecidableEq

inductive ItemKind where
  | struct
  | abstractStruct
  | function
  deriving DecidableEq, Repr

namespace Struct

def field (s : Struct) (name : String) (ty : Ty) : Struct :=
  { s with fields := s.fields ++ [{ name, ty }] }

def doc (s : Struct) (line : String) : Struct := { s with docs := s.docs ++ [line] }

/-- The same struct put together field by field and line by line. -/
def assemble (s : Struct) : Struct :=
  let bare : Struct := { name := s.name }
  let fielded := s.fields.foldl (fun acc f => acc.field f.name f.ty) bare
  s.docs.foldl doc fielded

end Struct

namespace AbstractStruct

def assemble (s : AbstractStruct) : AbstractStruct := { name := s.name }

end AbstractStruct

namespace Function

def param (f : Function) (name : String) (ty : Ty) : Function :=
  { f with params := f.params ++ [{ name, ty }] }

def doc (f : Function) (line : String) : Function := { f with docs := f.docs ++ [line] }

def assemble (f : Function) : Function :=
  let bare : Function := { name := f.name }
  let applied := f.params.foldl (fun acc p => acc.param p.name p.ty) bare
  let documented := f.docs.foldl doc applied
  { documented with returns := f.returns }

end Function

namespace Items

/-- The complete struct of a name, the first one if there are several. -/
def findStruct? (items : Items) (name : String) : Option Struct :=
  items.structs.find? fun s => s.name == name

def findFunction? (items : Items) (name : String) : Option Function :=
  items.functions.find? fun f => f.name == name

/-- What a name stands for; complete structs come before abstract ones and those before
functions. -/
def kindOf? (items : Items) (name : String) : Option ItemKind :=
  if items.structs.any fun s => s.name == name then some .struct
  else if items.abstractStructs.any fun s => s.name == name then some .abstractStruct
  else if items.functions.any fun f => f.name == name then some .function
  else none

def names (items : Items) : List (String × ItemKind) :=
  items.structs.map (fun s => (s.name, .struct)) ++
    items.abstractStructs.map (fun s => (s.name, .abstractStruct)) ++
    items.functions.map (fun f => (f.name, .function))

/-- The description put together from its parts. Documentation of fields and abstract structs has no
part of its own and is left out. -/
def assemble (items : Items) : Items where
  structs := items.structs.map Struct.assemble
  abstractStructs := items.abstractStructs.map AbstractStruct.assemble
  functions := items.functions.map Function.assemble

end Items

end Bindery
