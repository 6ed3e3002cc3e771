import Bindery.Description.Items
import Bindery.Json.Writer

set_option autoImplicit false
set_option relaxedAutoImplicit false

/-!
Writing descriptions as JSON. Empty documentation and absent return types are left out; everything
else is always written.
-/

namespace Bindery

open Json (Token)
open Json.Writer (list member object quoted natural)

mutual

def Ty.tokens : Ty → List Token
  | .primitive p => object [member "primitive" [quoted p.name]]
  | .pointer m t =>
    object [member "pointer"
      (object [member "mutability" [quoted m.name], member "pointee" t.tokens])]
  | .string m => object [member "string" (object [member "mutability" [quoted m.name]])]
  | .slice m t =>
    object [member "slice"
      (object [member "mutability" [quoted m.name], member "element" t.tokens])]
  | .owned t => object [member "owned" t.tokens]
  | .function args returns =>
    object [member "function" (object (member "args" (list (Ty.tokensAll args)) ::
      Ty.tokensReturn returns))]
  | .closure args returns =>
    object [member "closure" (object (member "args" (list (Ty.tokensAll args)) ::
      Ty.tokensReturn returns))]
  | .array t n =>
    object [member "array" (object [member "element" t.tokens, member "len" [natural n.toNat]])]
  | .named name => object [member "named" [quoted name]]

def Ty.tokensAll : List Ty → List (List Token)
  | [] => []
  | t :: ts => t.tokens :: Ty.tokensAll ts

/-- The member that holds a return type, if there is one. -/
def Ty.tokensReturn : Option Ty → List (List Token)
  | none => []
  | some t => [member "returns" t.tokens]

end

/-- The member that holds documentation, if there is any. -/
def docsMember : List String → List (List Token)
  | [] => []
  | docs => [member "docs" (list (docs.map fun line => [quoted line]))]

def Field.tokens (f : Field) : List Token :=
  object ([member "name" [quoted f.name], member "ty" f.ty.tokens] ++ docsMember f.docs)

def Struct.tokens (s : Struct) : List Token :=
  object ([member "name" [quoted s.name]] ++ docsMember s.docs ++
    [member "fields" (list (s.fields.map Field.tokens))])

def AbstractStruct.tokens (s : AbstractStruct) : List Token :=
  object ([member "name" [quoted s.name]] ++ docsMember s.docs)

def Param.tokens (p : Param) : List Token :=
  object [member "name" [quoted p.name], member "ty" p.ty.tokens]

def Function.tokens (f : Function) : List Token :=
  object ([member "name" [quoted f.name]] ++ docsMember f.docs ++
    [member "args" (list (f.params.map Param.tokens))] ++ Ty.tokensReturn f.returns)

def Items.tokens (items : Items) : List Token :=
  object
    [member "structs" (list (items.structs.map Struct.tokens)),
      member "abstract_structs" (list (items.abstractStructs.map AbstractStruct.tokens)),
      member "functions" (list (items.functions.map Function.tokens))]

def Items.render (items : Items) : String := Json.Writer.text items.tokens

def Ty.render (t : Ty) : String := Json.Writer.text t.tokens

def Struct.render (s : Struct) : String := Json.Writer.text s.tokens

def Function.render (f : Function) : String := Json.Writer.text f.tokens

end Bindery
