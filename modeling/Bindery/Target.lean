set_option autoImplicit false
set_option relaxedAutoImplicit false

/-!
The languages bindings can be generated for, and the formats a list of symbols can take.
-/

namespace Bindery

inductive Target where
  | rust
  | c
  | python
  deriving DecidableEq, Repr

namespace Target

def all : List Target := [.rust, .c, .python]

def name : Target → String
  | .rust => "rust"
  | .c => "c"
  | .python => "python"

/-- The target of a name; letters of ASCII may be in either case. -/
def ofName? (name : String) : Option Target :=
  all.find? fun t => t.name.toList == name.toList.map Char.toLower

def unknown (name : String) : String :=
  "unknown target `" ++ name ++ "`, expected `rust`, `c` or `python`"

end Target

inductive SymbolFormat where
  | list
  | versionScript
  deriving DecidableEq, Repr

namespace SymbolFormat

def all : List SymbolFormat := [.list, .versionScript]

def default : SymbolFormat := .list

def name : SymbolFormat → String
  | .list => "list"
  | .versionScript => "gnu-version-script"

def ofName? (name : String) : Option SymbolFormat :=
  all.find? fun f => f.name == name

def unknown (name : String) : String := "unknown symbol format `" ++ name ++ "`"

end SymbolFormat

end Bindery
