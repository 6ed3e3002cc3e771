import Bindery.GenerateError
import Bindery.Header.Declarator

set_option autoImplicit false
set_option relaxedAutoImplicit false

/-!
Typedefs of a header. Slices, owned values, function pointers and closures have no notation of their
own in C, so each of them is defined once, after everything its definition mentions. Two types that
C would tell apart must not share a name.
-/

namespace Bindery

mutual

/-- A type as C sees it, where what is owned can always be written. -/
def Ty.inC : Ty → Ty
  | .primitive p => .primitive p
  | .pointer m pointee => .pointer m pointee.inC
  | .string m => .string m
  | .slice m element => .slice m element.inC
  | .owned (.pointer _ pointee) => .owned (.pointer .mutable pointee.inC)
  | .owned (.slice _ element) => .owned (.slice .mutable element.inC)
  | .owned other => other.inC
  | .function args returns => .function (Ty.inCAll args) (Ty.inCOption returns)
  | .closure args returns => .closure (Ty.inCAll args) (Ty.inCOption returns)
  | .array element len => .array element.inC len
  | .named name => .named name

def Ty.inCAll : List Ty → List Ty
  | [] => []
  | t :: ts => t.inC :: Ty.inCAll ts

def Ty.inCOption : Option Ty → Option Ty
  | none => none
  | some t => some t.inC

end

namespace Header

mutual

/-- The types inside a type that need a typedef, each after those it mentions. -/
def carriers : Ty → List Ty
  | .primitive _ => []
  | .string _ => []
  | .named _ => []
  | .pointer _ pointee => carriers pointee
  | .array element _ => carriers element
  | .slice m element => carriers element ++ [.slice m element]
  | .owned (.pointer m pointee) => carriers pointee ++ [.owned (.pointer m pointee)]
  | .owned (.slice m element) =>
    carriers element ++ [.slice .mutable element, .owned (.slice m element)]
  | .owned other => carriers other
  | .function args returns =>
    carriersAll args ++ carriersOption returns ++ [.function args returns]
  | .closure args returns => carriersAll args ++ carriersOption returns ++ [.closure args returns]

def carriersAll : List Ty → List Ty
  | [] => []
  | t :: ts => carriers t ++ carriersAll ts

def carriersOption : Option Ty → List Ty
  | none => []
  | some t => carriers t

end

/-- The types of fields, then of parameters and results, in the order in which they are written. -/
def declaredTypes (items : Items) : List Ty :=
  items.structs.flatMap (fun s => s.fields.map Field.ty) ++
    items.functions.flatMap fun f => f.params.map Param.ty ++ f.returns.toList

def recordDefinition (name : String) (members : List String) : String :=
  "typedef struct " ++ name ++ " \x7b\n" ++
    String.join (members.map fun m => "    " ++ m ++ ";\n") ++ "\x7d " ++ name ++ ";"

/-- The typedef of a type that needs one. -/
def definition (tag : String) (t : Ty) : String :=
  let name := typedefName tag t
  match t with
  | .slice m element =>
    recordDefinition name [declare tag (.pointer m element) "data", "size_t len"]
  | .owned (.pointer _ pointee) =>
    let data := Ty.pointer .mutable pointee
    recordDefinition name
      [declare tag data "data", "void (*deleter)(" ++ declare tag data "" ++ ")"]
  | .owned (.slice _ element) =>
    let view := typedefName tag (.slice .mutable element)
    recordDefinition name [view ++ " slice", "void (*deleter)(" ++ view ++ ")"]
  | .function args returns =>
    let params := if args.isEmpty then "void" else ", ".intercalate (argumentTypes tag args)
    "typedef " ++ declareReturn tag returns ("(*" ++ name ++ ")(" ++ params ++ ")") ++ ";"
  | .closure args returns =>
    let params := ", ".intercalate ("void *" :: argumentTypes tag args)
    recordDefinition name
      [declareReturn tag returns ("(*caller)(" ++ params ++ ")"), "void *state",
        "void (*deleter)(void *)"]
  | _ => ""

/-- The types to define, given those that are defined already, or the first name that two different
types would share. -/
def define (tag : String) (defined : List Ty) : List Ty → Except String (List Ty)
  | [] => .ok defined
  | t :: ts =>
    match defined.find? fun u => typedefName tag u == typedefName tag t with
    | none => define tag (defined ++ [t]) ts
    | some u => if u.inC = t.inC then define tag defined ts else .error (typedefName tag t)

/-- The types that need a typedef in the header of a description, in the order of their
definitions. -/
def typedefs (tag : String) (items : Items) : Except GenerateError (List Ty) :=
  (define tag [] ((declaredTypes items).flatMap carriers)).mapError .typedefCollision

end Header

end Bindery
