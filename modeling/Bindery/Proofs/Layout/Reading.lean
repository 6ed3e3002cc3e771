import Bindery.Named
import Bindery.Proofs.Header.Syntax
import Bindery.Proofs.Loader.Names

set_option autoImplicit false
set_option relaxedAutoImplicit false

/-!
What the generated files say about memory. A machine gives sizes and alignments to numbers and
addresses, and a struct places its members one after another, each at the next multiple of its
alignment. The header and the loader module are read from the first declaration to the last; each
reading knows only the words of its own language and the definitions that it has come across.
-/

namespace Bindery.Layout

inductive Scalar where
  | boolean
  | integer (bytes : Nat)
  | real (bytes : Nat)
  | word
  | address
  deriving DecidableEq

/-- A machine: the width of its addresses and the alignment of its scalars. -/
structure Machine where
  width : Nat
  align : Scalar → Nat

structure Extent where
  size : Nat
  align : Nat
  deriving DecidableEq

def Machine.size (m : Machine) : Scalar → Nat
  | .boolean => 1
  | .integer bytes => bytes
  | .real bytes => bytes
  | .word => m.width
  | .address => m.width

def Machine.extent (m : Machine) (s : Scalar) : Extent := ⟨m.size s, m.align s⟩

def Extent.times (e : Extent) (len : Nat) : Extent := ⟨len * e.size, e.align⟩

structure StructLayout where
  size : Nat
  align : Nat
  offsets : List (String × Nat)
  deriving DecidableEq

def StructLayout.extent (l : StructLayout) : Extent := ⟨l.size, l.align⟩

def roundUp (offset align : Nat) : Nat := offset + (align - offset % align) % align

/-- Where members begin when the first one may begin at an offset, and where the last one ends. -/
def place (offset : Nat) : List (String × Extent) → List (String × Nat) × Nat
  | [] => ([], offset)
  | (name, e) :: rest =>
    let start := roundUp offset e.align
    let (starts, last) := place (start + e.size) rest
    ((name, start) :: starts, last)

def ofMembers (members : List (String × Extent)) : StructLayout :=
  let align := (members.map fun m => m.2.align).foldr max 1
  let (offsets, last) := place 0 members
  ⟨roundUp last align, align, offsets⟩

/-- What a file says about a function: its symbol and the extents of its arguments and its
result. -/
structure FunctionLayout where
  symbol : String
  params : List Extent
  result : Option Extent
  deriving DecidableEq

theorem names_place (offset : Nat) (members : List (String × Extent)) :
    (place offset members).1.map Prod.fst = members.map Prod.fst := by
  induction members generalizing offset with
  | nil => rfl
  | cons m members ih =>
    obtain ⟨name, e⟩ := m
    simp [place, ih]

end Bindery.Layout

/-! ### The header -/

namespace Bindery.Header

open Layout (Scalar Machine Extent StructLayout FunctionLayout ofMembers)

def scalar? : String → Option Scalar
  | "bool" => some .boolean
  | "char" => some (.integer 1)
  | "int8_t" => some (.integer 1)
  | "int16_t" => some (.integer 2)
  | "int32_t" => some (.integer 4)
  | "int64_t" => some (.integer 8)
  | "ptrdiff_t" => some .word
  | "uint8_t" => some (.integer 1)
  | "uint16_t" => some (.integer 2)
  | "uint32_t" => some (.integer 4)
  | "uint64_t" => some (.integer 8)
  | "size_t" => some .word
  | "float" => some (.real 4)
  | "double" => some (.real 8)
  | _ => none

/-- What has been read of a header: the extents of typedef names, the layouts of structs, and the
functions. -/
structure Scope where
  typedefs : Named Extent := []
  structs : Named StructLayout := []
  functions : List FunctionLayout := []

def Base.extent? (m : Machine) (scope : Scope) : Base → Option Extent
  | .struct name => (scope.structs.get? name).map StructLayout.extent
  | .alias name => scope.typedefs.get? name
  | word => (scalar? word.text).map m.extent

def CType.extent? (m : Machine) (scope : Scope) : CType → Option Extent
  | .base _ leaf => leaf.extent? m scope
  | .pointer _ _ => some (m.extent .address)
  | .array element len => (element.extent? m scope).map fun e => e.times len.toNat
  | .function _ _ => none

/-- The extent of a parameter, where an array or a function stands for a pointer. -/
def CType.paramExtent? (m : Machine) (scope : Scope) : CType → Option Extent
  | .array _ _ => some (m.extent .address)
  | .function _ _ => some (m.extent .address)
  | t => t.extent? m scope

/-- The extent of a result, which is nothing for `void`; no function results in an array. -/
def CType.resultExtent? (m : Machine) (scope : Scope) : CType → Option (Option Extent)
  | .base _ .void => some none
  | .array _ _ => none
  | t => (t.extent? m scope).map some

def Member.extent? (m : Machine) (scope : Scope) (x : Member) : Option (String × Extent) :=
  (x.type.extent? m scope).map fun e => (x.name, e)

/-- Reads a declaration. A typedef name stands for the type that it is declared with, and a tag for
the struct that is defined under it. -/
def CDecl.read (m : Machine) (scope : Scope) : CDecl → Option Scope
  | .forward _ => some scope
  | .record name members => do
    let members ← members.mapM (Member.extent? m scope)
    some { scope with typedefs := scope.typedefs ++ [(name, (ofMembers members).extent)] }
  | .synonym name type => do
    let extent ← type.extent? m scope
    some { scope with typedefs := scope.typedefs ++ [(name, extent)] }
  | .struct _ name members => do
    let members ← members.mapM (Member.extent? m scope)
    some { scope with structs := scope.structs ++ [(name, ofMembers members)] }
  | .prototype _ symbol params result => do
    let params ← params.mapM fun p => p.type.paramExtent? m scope
    let result ← result.resultExtent? m scope
    some { scope with functions := scope.functions ++ [⟨symbol, params, result⟩] }

def readFrom (m : Machine) (scope : Scope) (header : List CDecl) : Option Scope :=
  header.foldlM (CDecl.read m) scope

end Bindery.Header

/-! ### The loader module -/

namespace Bindery.Loader

open Layout (Scalar Machine Extent StructLayout FunctionLayout ofMembers)

def scalar? : String → Option Scalar
  | "c_bool" => some .boolean
  | "c_int8" => some (.integer 1)
  | "c_int16" => some (.integer 2)
  | "c_int32" => some (.integer 4)
  | "c_int64" => some (.integer 8)
  | "c_ssize_t" => some .word
  | "c_uint8" => some (.integer 1)
  | "c_uint16" => some (.integer 2)
  | "c_uint32" => some (.integer 4)
  | "c_uint64" => some (.integer 8)
  | "c_size_t" => some .word
  | "c_float" => some (.real 4)
  | "c_double" => some (.real 8)
  | "c_char_p" => some .address
  | "c_void_p" => some .address
  | _ => none

/-- What an expression gives: `None`, or a type, which has an extent once it is complete. -/
inductive Value where
  | absent
  | type (extent : Option Extent)

namespace Value

def isType : Value → Bool
  | .absent => false
  | .type _ => true

def extent? : Value → Option Extent
  | .absent => none
  | .type extent => extent

def resultExtent? : Value → Option (Option Extent)
  | .absent => some none
  | .type extent => extent.map some

end Value

/-- What a name stands for where an expression looks it up. -/
inductive Referent where
  | library
  | value (v : Value)
  | values (vs : List Value)
  | factory (f : Factory)
  | other

/-- What has been read of a loader module: the statements that bind names, in order, and the layouts
of classes. -/
structure Scope where
  defined : List Statement := []
  structs : Named StructLayout := []

/-- The function around an expression: the names that hide those of the module, and what they
hold. -/
structure Frame where
  hidden : List String := []
  held : Named Referent := []

def importsLibrary (text name : String) : Bool :=
  (text.toList.splitOn '\n').contains ("import ctypes as ".toList ++ name.toList)

/-- What a name refers to, by its meaning. A class is a type from the moment it is opened. -/
def Scope.lookUp (scope : Scope) (frame : Frame) (name : String) : Referent :=
  match meaning frame.hidden scope.defined name with
  | .inner => (frame.held.get? name).getD .other
  | .bound (.opened _ _) => .value (.type ((scope.structs.get? name).map StructLayout.extent))
  | .bound (.factory f) => .factory f
  | .bound (.other text) => if importsLibrary text name then .library else .other
  | _ => .other

def libraryCall? (m : Machine) : String → List Value → Option Value
  | "POINTER", [_] => some (.type (some (m.extent .address)))
  | "CFUNCTYPE", _ :: args =>
    if args.all Value.isType then some (.type (some (m.extent .address))) else none
  | _, _ => none

section Evaluation

variable (m : Machine) (lookUp : String → Referent) (call : Factory → List Value → Option Value)

mutual

def Expr.value? : Expr → Option Value
  | .name text =>
    match lookUp text with
    | .value v => some v
    | _ => none
  | .absent => some .absent
  | .member text =>
    match lookUp "ct" with
    | .library => (scalar? text).map fun s => .type (some (m.extent s))
    | _ => none
  | .call (.member text) args =>
    match lookUp "ct" with
    | .library => (Expr.values? args).bind (libraryCall? m text)
    | _ => none
  | .call (.name callee) args =>
    match lookUp callee with
    | .factory f => (Expr.values? args).bind (call f)
    | _ => none
  | .call _ _ => none
  | .array element len =>
    match element.value? with
    | some (.type extent) => some (.type (extent.map fun e => e.times len))
    | _ => none
  | .spread _ => none

def Expr.values? : List Expr → Option (List Value)
  | [] => some []
  | .spread text :: es =>
    match lookUp text with
    | .values vs => (Expr.values? es).map (vs ++ ·)
    | _ => none
  | e :: es => e.value?.bind fun v => (Expr.values? es).map (v :: ·)

end

def fieldExtent? (f : TypedName) : Option (String × Extent) :=
  ((f.2.value? m lookUp call).bind Value.extent?).map fun e => (f.1, e)

def Symbol.read (s : Symbol) : Option FunctionLayout := do
  let params ← s.args.mapM fun e => (e.value? m lookUp call).bind Value.extent?
  let result ← (s.result.value? m lookUp call).bind Value.resultExtent?
  some ⟨s.name, params, result⟩

end Evaluation

/-- The names of its own that a factory has, that of its class among them. -/
def Factory.hidden (f : Factory) : List String :=
  f.params ++ f.further ++ f.locals.map Prod.fst ++ [f.name]

def Factory.take? (f : Factory) (args : List Value) : Option (Named Referent) :=
  let held := f.params.zip (args.map .value)
  match f.further with
  | [] => if args.length = f.params.length then some held else none
  | rest :: _ =>
    if f.params.length ≤ args.length then
      some (held ++ [(rest, .values (args.drop f.params.length))])
    else none

/-- What a factory makes of its arguments. Nothing in a factory is conditional, so that calls which
nest deeper than there are factories never end. -/
def call (m : Machine) (scope : Scope) : Nat → Factory → List Value → Option Value
  | 0, _, _ => none
  | depth + 1, f, args => do
    let taken ← f.take? args
    let held ← f.locals.foldlM (fun held l =>
      (l.2.value? m (scope.lookUp ⟨f.hidden, held⟩) (call m scope depth)).map fun v =>
        (l.1, .value v) :: held) taken
    let members ← f.fields.mapM
      (fieldExtent? m (scope.lookUp ⟨f.hidden, held⟩) (call m scope depth))
    some (.type (some (ofMembers members).extent))

/-- Reads a statement. No word of the language can be bound, and only an opened class can be given
fields. -/
def Statement.read (m : Machine) (scope : Scope) : Statement → Option Scope
  | .layout name fields =>
    match meaning [] scope.defined name with
    | .bound (.opened _ _) => do
      let members ← fields.mapM
        (fieldExtent? m (scope.lookUp {}) (call m scope scope.defined.length))
      some { scope with structs := scope.structs ++ [(name, ofMembers members)] }
    | _ => none
  | s =>
    if s.binds.any fun name => words.contains name then none
    else some { scope with defined := scope.defined ++ [s] }

def readFrom (m : Machine) (scope : Scope) (contents : List Statement) : Option Scope :=
  contents.foldlM (Statement.read m) scope

/-- The functions that a routine declares when it runs after the module. What its parameters and
variables hold, a path and a library, are no types. -/
def Routine.read (m : Machine) (scope : Scope) (r : Routine) : Option (List FunctionLayout) :=
  r.symbols.mapM
    (Symbol.read m (scope.lookUp { hidden := r.locals }) (call m scope scope.defined.length))

def Scope.functions? (m : Machine) (scope : Scope) : Option (List FunctionLayout) :=
  ((scope.defined.filterMap Statement.routine).mapM (Routine.read m scope)).map List.flatten

end Bindery.Loader
