import Bindery.Files
import Bindery.Target
import Bindery.Validity.Problem

set_option autoImplicit false
set_option relaxedAutoImplicit false

/-!
Why bindings cannot be generated.
-/

namespace Bindery

inductive GenerateError where
  | invalid (problems : List Problem)
  | noTargets
  | invalidPrefix (text : String)
  | reservedIdentifier (name : String) (target : Target)
  | typedefCollision (name : String)
  | invalidPath (path : String)
  | readManifest (path : String) (cause : FileFault)
  | parseManifest (path : String)
  deriving DecidableEq, Repr

def GenerateError.message : GenerateError → String
  | .invalid problems => Problem.summary problems
  | .noTargets => "no output target selected"
  | .invalidPrefix text => "`" ++ text ++ "` is not a valid symbol prefix"
  | .reservedIdentifier name target =>
    "`" ++ name ++ "` cannot be used as an identifier in " ++ target.name ++ " output"
  | .typedefCollision name => "two different C types would both be named `" ++ name ++ "`"
  | .invalidPath path => "`" ++ path ++ "` is not a valid Rust path"
  | .readManifest path _ => "unable to read cargo manifest `" ++ path ++ "`"
  | .parseManifest path => "failed to parse cargo manifest `" ++ path ++ "`"

end Bindery
