import Bindery.Description.Items
import Bindery.Options

set_option autoImplicit false
set_option relaxedAutoImplicit false

/-!
The symbols that a library exports for a description.
-/

namespace Bindery.Symbols

def exported (items : Items) (options : Options) : List String :=
  items.functions.map fun f => options.symbol f.name

/-- The exported symbols as text: one a line, or a linker script that hides every other symbol. -/
def render (items : Items) (options : Options) : SymbolFormat → String
  | .list => String.join ((exported items options).map fun s => s ++ "\n")
  | .versionScript =>
    "\x7b\n  global:\n" ++
      String.join ((exported items options).map fun s => "    " ++ s ++ ";\n") ++
      "  local: *;\n\x7d;\n"

end Bindery.Symbols
