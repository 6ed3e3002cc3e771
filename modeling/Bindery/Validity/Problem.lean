import Bindery.Journal

set_option autoImplicit false
set_option relaxedAutoImplicit false

/-!
What can be wrong with a description, and where.
-/

namespace Bindery

/-- Where a type is used. -/
inductive Site where
  | field (owner field : String)
  | argument (function arg : String)
  | returns (function : String)
  deriving DecidableEq, Repr

def Site.describe : Site → String
  | .field owner name => "field `" ++ owner ++ "." ++ name ++ "`"
  | .argument function arg => "argument `" ++ arg ++ "` of `" ++ function ++ "`"
  | .returns function => "return type of `" ++ function ++ "`"

inductive Problem where
  | duplicateItem (name : String)
  | duplicateField (owner field : String)
  | duplicateArg (function arg : String)
  | invalidIdentifier (name : String)
  | unknownType (name : String) (site : Site)
  | notAType (name : String) (site : Site)
  | unsized (name : String) (site : Site)
  | invalidOwned (site : Site)
  | zeroLengthArray (site : Site)
  | arrayByValue (site : Site)
  | closureArity (site : Site) (args max : Nat)
  | cycle (name : String)
  deriving DecidableEq, Repr

def Problem.message : Problem → String
  | .duplicateItem name => "`" ++ name ++ "` is declared more than once"
  | .duplicateField owner field =>
    "struct `" ++ owner ++ "` declares field `" ++ field ++ "` more than once"
  | .duplicateArg function arg =>
    "function `" ++ function ++ "` declares argument `" ++ arg ++ "` more than once"
  | .invalidIdentifier name => "`" ++ name ++ "` is not a valid identifier"
  | .unknownType name site => "unknown type `" ++ name ++ "` in " ++ site.describe
  | .notAType name site => "`" ++ name ++ "` is a function, not a type, in " ++ site.describe
  | .unsized name site => "abstract struct `" ++ name ++ "` is used by value in " ++ site.describe
  | .invalidOwned site => "`owned` must wrap a pointer or a slice, in " ++ site.describe
  | .zeroLengthArray site => "zero-length array in " ++ site.describe
  | .arrayByValue site => "arrays cannot be passed or returned by value, in " ++ site.describe
  | .closureArity site args max =>
    "closure takes " ++ toString args ++ " arguments, at most " ++ toString max ++
      " are supported, in " ++ site.describe
  | .cycle name => "struct `" ++ name ++ "` contains itself by value"

def Problem.entry (p : Problem) : Entry := ⟨.warn, p.message⟩

def Problem.summary : List Problem → String
  | [p] => "invalid interface description: " ++ p.message
  | ps =>
    "invalid interface description (" ++ toString ps.length ++ " problems):" ++
      String.join (ps.map fun p => "\n  - " ++ p.message)

end Bindery
