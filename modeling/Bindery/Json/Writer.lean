import Bindery.Json.Token

set_option autoImplicit false
set_option relaxedAutoImplicit false

/-!
From tokens to JSON text, without blanks.
-/

namespace Bindery.Json.Writer

def hexDigit (n : Nat) : Char :=
  if n < 10 then Char.ofNat ('0'.toNat + n) else Char.ofNat ('a'.toNat + (n - 10))

/-- How one character stands in a string: quotes, backslashes and controls are escaped. -/
def escape (c : Char) : List Char :=
  if c == '"' then ['\\', '"']
  else if c == '\\' then ['\\', '\\']
  else if c == '\x08' then ['\\', 'b']
  else if c == '\x0c' then ['\\', 'f']
  else if c == '\n' then ['\\', 'n']
  else if c == '\r' then ['\\', 'r']
  else if c == '\t' then ['\\', 't']
  else if c.toNat < 0x20 then
    ['\\', 'u', '0', '0', hexDigit (c.toNat / 16), hexDigit (c.toNat % 16)]
  else [c]

def numeral (n : Numeral) : List Char :=
  (if n.negative then ['-'] else []) ++ n.whole ++
    (match n.fraction with
      | none => []
      | some digits => '.' :: digits) ++
    (match n.exponent with
      | none => []
      | some (minus, digits) => 'e' :: (if minus then ['-'] else []) ++ digits)

/-- The text of one token; a broken token has none. -/
def token : Token → List Char
  | .mark m => [m.char]
  | .word w none => w.letters
  | .string (.ok s) => '"' :: s.toList.flatMap escape ++ ['"']
  | .number (.ok n) => numeral n
  | _ => []

def text (ts : List Token) : String := String.ofList (ts.flatMap token)

def quoted (s : String) : Token := .string (.ok s)

def natural (n : Nat) : Token := .number (.ok ⟨false, Nat.toDigits 10 n, none, none⟩)

def separated : List (List Token) → List Token
  | [] => []
  | [ts] => ts
  | ts :: rest => ts ++ .mark .comma :: separated rest

def list (values : List (List Token)) : List Token :=
  .mark .openBracket :: separated values ++ [.mark .closeBracket]

def member (key : String) (value : List Token) : List Token :=
  quoted key :: .mark .colon :: value

def object (members : List (List Token)) : List Token :=
  .mark .openBrace :: separated members ++ [.mark .closeBrace]

end Bindery.Json.Writer
