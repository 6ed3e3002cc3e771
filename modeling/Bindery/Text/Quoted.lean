import Bindery.Text.Extending
import Bindery.Text.Printable

set_option autoImplicit false
set_option relaxedAutoImplicit false

/-!
Text shown between double quotes. Quotes, backslashes and the usual layout characters have short
escapes; characters that extend their neighbour or have no visible form are written by number.
-/

namespace Bindery.Text.Quoted

def byNumber (c : Char) : List Char :=
  ['\\', 'u', '{'] ++ Nat.toDigits 16 c.toNat ++ ['}']

def shown (c : Char) : List Char :=
  if c == '\t' then ['\\', 't']
  else if c == '\r' then ['\\', 'r']
  else if c == '\n' then ['\\', 'n']
  else if c == '"' || c == '\\' then ['\\', c]
  else if Extending.isExtending c || !Printable.isPrintable c then byNumber c
  else [c]

/-- Text between quotes as messages show it; NUL is always written in its short form. -/
def shownText : List Char → List Char
  | [] => []
  | c :: cs => (if c.toNat = 0 then ['\\', '0'] else shown c) ++ shownText cs

def quote (s : String) : String :=
  String.ofList ('"' :: shownText s.toList ++ ['"'])

/-- Whether text begins with an octal digit, which would run on from a short NUL. -/
def startsOctal : List Char → Bool
  | [] => false
  | c :: _ => '0' ≤ c && c ≤ '7'

/-- The body of a string literal; NUL is written in two hexadecimal digits before an octal digit. -/
def literalBody : List Char → List Char
  | [] => []
  | c :: cs =>
    (if c.toNat = 0 then
      if startsOctal cs then ['\\', 'x', '0', '0'] else ['\\', '0']
    else shown c) ++ literalBody cs

def literal (s : String) : String :=
  String.ofList ('"' :: literalBody s.toList ++ ['"'])

end Bindery.Text.Quoted
