import Bindery.Description.Items
import Bindery.Header.Name

set_option autoImplicit false
set_option relaxedAutoImplicit false

/-!
Declarations of C. A declaration is a base and a declarator, which is built from the inside out:
arrays bind tighter than pointers, so a pointer to an array stands in parentheses.
-/

namespace Bindery.Header

/-- A base, qualified if it must not be written. -/
def qualified (isConst : Bool) (base : String) : String :=
  if isConst then "const " ++ base else base

/-- A base followed by its declarator; an empty declarator leaves the base alone. -/
def joined (base declarator : String) : String :=
  if declarator.isEmpty then base else base ++ " " ++ declarator

def pointerTo (isConst : Bool) (declarator : String) : String :=
  if isConst then
    if declarator.isEmpty then "*const" else "*const " ++ declarator
  else "*" ++ declarator

def arrayOf (len : UInt64) (declarator : String) : String :=
  match declarator.toList with
  | '*' :: _ => "(" ++ declarator ++ ")[" ++ toString len.toNat ++ "]"
  | _ => declarator ++ "[" ++ toString len.toNat ++ "]"

def stringBase : Mutability → String
  | .const => "const char"
  | .mutable => "char"

/-- Declares a declarator of a type that may be qualified. -/
def declareQualified (tag : String) (isConst : Bool) (declarator : String) : Ty → String
  | .primitive p => joined (qualified isConst (primitiveName p)) declarator
  | .named name => joined (qualified isConst ("struct " ++ name)) declarator
  | .pointer m pointee =>
    declareQualified tag (!m.isMutable) (pointerTo isConst declarator) pointee
  | .string m => joined (stringBase m) (pointerTo isConst declarator)
  | .array element len => declareQualified tag isConst (arrayOf len declarator) element
  | t => joined (qualified isConst (typedefName tag t)) declarator

/-- Declares a name, or nothing but the type when the name is empty. -/
def declare (tag : String) (t : Ty) (name : String) : String := declareQualified tag false name t

def declareReturn (tag : String) (returns : Option Ty) (declarator : String) : String :=
  match returns with
  | some t => declare tag t declarator
  | none => joined "void" declarator

def parameterList (tag : String) (params : List Param) : String :=
  if params.isEmpty then "void"
  else ", ".intercalate (params.map fun p => declare tag p.ty p.name)

def argumentTypes (tag : String) (args : List Ty) : List String :=
  args.map fun t => declare tag t ""

def prototype (tag : String) (f : Function) (symbol : String) : String :=
  declareReturn tag f.returns (symbol ++ "(" ++ parameterList tag f.params ++ ")")

end Bindery.Header
