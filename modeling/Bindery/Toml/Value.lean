import Bindery.Named

set_option autoImplicit false
set_option relaxedAutoImplicit false

/-!
Values of a TOML document. A table remembers how it came to be, because that decides whether it may
be added to later.
-/

namespace Bindery.Toml

/-- How a table came to be. -/
inductive Origin where
  | header
  /-- It is only mentioned in the header of a table inside it. -/
  | implied
  /-- It is only mentioned in a dotted key. -/
  | dotted
  | inline
  deriving DecidableEq, Repr

inductive Value where
  | text (s : String)
  | integer (n : Int)
  | float (digits : String)
  | boolean (b : Bool)
  | moment (digits : String)
  | array (elements : List Value)
  | table (origin : Origin) (entries : List (String × Value))
  | tables (elements : List (List (String × Value)))

/-- Keys with their values, in the order in which they appear. -/
abbrev Entries := Named Value

def Value.entries? : Value → Option Entries
  | .table _ entries => some entries
  | _ => none

def Value.text? : Value → Option String
  | .text s => some s
  | _ => none

end Bindery.Toml
