import Bindery.CratePath
import Bindery.Description.Items
import Bindery.GenerateError

set_option autoImplicit false
set_option relaxedAutoImplicit false

/-!
How types appear in the wrapper file. Every type has a plain form, which is what crosses the library
boundary; an owned type or a closure also has a wrapper form, which frees what it holds.
-/

namespace Bindery.Wrapper

/-- Words of the language that can be used as names when they are marked as raw. -/
def keywords : List String :=
  ["abstract", "as", "async", "await", "become", "box", "break", "const", "continue", "do", "dyn",
    "else", "enum", "extern", "false", "final", "fn", "for", "gen", "if", "impl", "in", "let",
    "loop", "macro", "match", "mod", "move", "mut", "override", "priv", "pub", "ref", "return",
    "static", "struct", "trait", "true", "try", "type", "typeof", "unsafe", "unsized", "use",
    "virtual", "where", "while", "yield"]

/-- Words of the language that cannot be used as names at all. -/
def reserved : List String := ["self", "Self", "super", "crate"]

def checkNames (names : List String) : Except GenerateError Unit :=
  match names.find? fun name => reserved.contains name with
  | some name => .error (.reservedIdentifier name .rust)
  | none => .ok ()

def ident (name : String) : Token := .ident name (keywords.contains name)

def runtimeItem (rt : CratePath) (name : String) : Stream := rt.tokens ++ colons ++ [word name]

def mutabilityWord : Mutability → Token
  | .const => word "const"
  | .mutable => word "mut"

def pointerTo (m : Mutability) (pointee : Stream) : Stream :=
  mark '*' :: mutabilityWord m :: pointee

def sliceName : Mutability → String
  | .const => "Slice"
  | .mutable => "SliceMut"

def signature (args : List Stream) (returns : Stream) : Stream :=
  word "fn" :: parens (commaSeparated args) :: returns

mutual

/-- The plain form of a type. -/
def pod (rt : CratePath) : Ty → Stream
  | .primitive p => [word p.name]
  | .named name => [ident name]
  | .pointer m pointee => pointerTo m (pod rt pointee)
  | .string m => pointerTo m (absolute ["core", "ffi", "c_char"])
  | .slice m element => runtimeItem rt (sliceName m) ++ angled (pod rt element)
  | .owned (.pointer _ pointee) => runtimeItem rt "RawOwnedPtr" ++ angled (pod rt pointee)
  | .owned (.slice _ element) => runtimeItem rt "RawOwnedSlice" ++ angled (pod rt element)
  | .owned other => pod rt other
  | .function args returns =>
    absolute ["core", "option", "Option"] ++
      angled (word "unsafe" :: word "extern" :: text "C" ::
        signature (podAll rt args) (podReturn rt returns))
  | .closure args returns =>
    runtimeItem rt "RawClosure" ++ angled (signature (podAll rt args) (podReturn rt returns))
  | .array element len => [brackets (pod rt element ++ [mark ';', .literal (.number len.toNat)])]

def podAll (rt : CratePath) : List Ty → List Stream
  | [] => []
  | t :: ts => pod rt t :: podAll rt ts

/-- The plain form of a result, which is nothing when there is no result. -/
def podReturn (rt : CratePath) : Option Ty → Stream
  | none => []
  | some t => arrow ++ pod rt t

end

/-- The wrapper that frees a value of the type, if there is one. -/
def owner? (rt : CratePath) : Ty → Option Stream
  | .owned (.pointer _ _) => some (runtimeItem rt "OwnedPtr")
  | .owned (.slice _ _) => some (runtimeItem rt "OwnedSlice")
  | .closure _ _ => some (runtimeItem rt "Closure")
  | _ => none

/-- The wrapper form of a type; types inside it stay plain. -/
def wrapped (rt : CratePath) : Ty → Stream
  | .owned (.pointer _ pointee) => runtimeItem rt "OwnedPtr" ++ angled (pod rt pointee)
  | .owned (.slice _ element) => runtimeItem rt "OwnedSlice" ++ angled (pod rt element)
  | .closure args returns =>
    runtimeItem rt "Closure" ++ angled (signature (podAll rt args) (podReturn rt returns))
  | other => pod rt other

def isWrapped : Ty → Bool
  | .owned _ => true
  | .closure _ _ => true
  | _ => false

end Bindery.Wrapper

namespace Bindery

/-- The declared names that a type mentions, in the order in which they are written. -/
def Ty.names (t : Ty) : List String :=
  t.tree.filterMap fun u =>
    match u with
    | .named name => some name
    | _ => none

end Bindery
