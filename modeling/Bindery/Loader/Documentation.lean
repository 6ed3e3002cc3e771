set_option autoImplicit false
set_option relaxedAutoImplicit false

/-!
Documentation of the loader module, written as strings between triple quotes.
-/

namespace Bindery.Loader

def doubleBackslashes : List Char → List Char
  | [] => []
  | '\\' :: rest => '\\' :: '\\' :: doubleBackslashes rest
  | c :: rest => c :: doubleBackslashes rest

/-- Text with a backslash in front of each quote of three in a row. -/
def escapeTriples : List Char → List Char
  | [] => []
  | '"' :: '"' :: '"' :: rest =>
    '\\' :: '"' :: '\\' :: '"' :: '\\' :: '"' :: escapeTriples rest
  | c :: rest => c :: escapeTriples rest

def escaped (line : String) : String :=
  String.ofList (escapeTriples (doubleBackslashes line.toList))

/-- A line after the first one; a blank line is not indented. -/
def docLine (indent : String) (line : String) : String :=
  if line.isEmpty then "\n" else indent ++ escaped line ++ "\n"

def docString (indent : String) : List String → String
  | [] => ""
  | [line] => indent ++ "\"\"\"" ++ escaped line ++ "\"\"\"\n"
  | first :: rest =>
    indent ++ "\"\"\"" ++ escaped first ++ "\n" ++ String.join (rest.map (docLine indent)) ++
      indent ++ "\"\"\"\n"

end Bindery.Loader
