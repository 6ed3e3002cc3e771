set_option autoImplicit false
set_option relaxedAutoImplicit false

/-!
Tokens of JSON text. A token records how its own text is broken, if it is, because whether that
matters depends on where the token stands: a reader that only looks for a comma rejects a broken
string as "not a comma", while a reader that wants a string reports what is wrong inside it.
-/

namespace Bindery.Json

/-- Why text is not JSON: it stops too early, or it holds something that cannot stand there. -/
inductive Fault where
  | ended
  | malformed
  deriving DecidableEq, Repr

inductive Mark where
  | openBrace
  | closeBrace
  | openBracket
  | closeBracket
  | comma
  | colon
  deriving DecidableEq, Repr

inductive Word where
  | null
  | boolean (b : Bool)
  deriving DecidableEq, Repr

/-- The letters of a number: sign, whole digits, digits after the point, and a signed exponent. -/
structure Numeral where
  negative : Bool
  whole : List Char
  fraction : Option (List Char)
  exponent : Option (Bool × List Char)
  deriving DecidableEq, Repr

/-- One token. A broken word, string or number carries its fault, and `halt` stands for text at
which every reader stops. -/
inductive Token where
  | mark (m : Mark)
  | word (w : Word) (broken : Option Fault)
  | string (text : Except Fault String)
  | number (numeral : Except Fault Numeral)
  | halt (fault : Fault)

def Mark.char : Mark → Char
  | .openBrace => '{'
  | .closeBrace => '}'
  | .openBracket => '['
  | .closeBracket => ']'
  | .comma => ','
  | .colon => ':'

def Mark.ofChar? (c : Char) : Option Mark :=
  if c == '{' then some .openBrace
  else if c == '}' then some .closeBrace
  else if c == '[' then some .openBracket
  else if c == ']' then some .closeBracket
  else if c == ',' then some .comma
  else if c == ':' then some .colon
  else none

@[simp]
theorem Mark.ofChar?_char (m : Mark) : Mark.ofChar? m.char = some m := by
  cases m <;> rfl

def Word.letters : Word → List Char
  | .null => ['n', 'u', 'l', 'l']
  | .boolean true => ['t', 'r', 'u', 'e']
  | .boolean false => ['f', 'a', 'l', 's', 'e']

def Word.ofInitial? (c : Char) : Option Word :=
  if c == 'n' then some .null
  else if c == 't' then some (.boolean true)
  else if c == 'f' then some (.boolean false)
  else none

/-- Blanks between tokens: space, tab, line feed and carriage return. -/
def isBlank (c : Char) : Bool :=
  c == ' ' || c == '\t' || c == '\n' || c == '\r'

end Bindery.Json
