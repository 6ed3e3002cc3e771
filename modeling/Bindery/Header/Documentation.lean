set_option autoImplicit false
set_option relaxedAutoImplicit false

/-!
Documentation comments of the headers. No line of documentation can end the comment it stands in.
-/

namespace Bindery.Header

/-- Text with every end of a comment pulled apart. -/
def pullApart : List Char → List Char
  | [] => []
  | '*' :: '/' :: rest => '*' :: ' ' :: '/' :: pullApart rest
  | c :: rest => c :: pullApart rest

def docLine (indent : String) (line : String) : String :=
  if line.isEmpty then indent ++ " *\n"
  else indent ++ " * " ++ String.ofList (pullApart line.toList) ++ "\n"

/-- Documentation as a comment, or nothing if there is none. -/
def docBlock (indent : String) (lines : List String) : String :=
  if lines.isEmpty then ""
  else
    indent ++ "/*!\n" ++ String.join (lines.map (docLine indent)) ++ indent ++ " */\n"

end Bindery.Header
