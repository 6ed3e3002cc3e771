import Bindery.Text.Quoted

set_option autoImplicit false
set_option relaxedAutoImplicit false

/-!
Streams of tokens, and their text. Tokens stand one blank apart, except that nothing follows a mark
that is glued to the next one.
-/

namespace Bindery.Wrapper

inductive Delimiter where
  | parenthesis
  | bracket
  | brace
  deriving DecidableEq, Repr

inductive Literal where
  | string (s : String)
  /-- A string that is written as it is; it must hold no quote. -/
  | verbatim (s : String)
  | number (n : Nat)
  deriving DecidableEq, Repr

/-- A token, or a bracketed group of tokens. -/
inductive Token where
  | ident (name : String) (raw : Bool)
  | mark (c : Char) (glued : Bool)
  | literal (l : Literal)
  | group (d : Delimiter) (inner : List Token)

abbrev Stream := List Token

def Literal.render : Literal → String
  | .string s => Text.Quoted.literal s
  | .verbatim s => "r\"" ++ s ++ "\""
  | .number n => toString n

def Delimiter.enclose (d : Delimiter) (inner : String) : String :=
  match d with
  | .parenthesis => "(" ++ inner ++ ")"
  | .bracket => "[" ++ inner ++ "]"
  | .brace => if inner.isEmpty then "\x7b \x7d" else "\x7b " ++ inner ++ " \x7d"

/-- Whether a token is glued to the next one. -/
def Token.isGlued : Token → Bool
  | .mark _ glued => glued
  | _ => false

mutual

def Token.render : Token → String
  | .ident name raw => if raw then "r#" ++ name else name
  | .mark c _ => String.singleton c
  | .literal l => l.render
  | .group d inner => d.enclose (renderStream inner)

def renderStream : Stream → String
  | [] => ""
  | [t] => t.render
  | t :: u :: ts =>
    t.render ++ (if t.isGlued then "" else " ") ++ renderStream (u :: ts)

end

def word (name : String) : Token := .ident name false

def mark (c : Char) : Token := .mark c false

/-- Two marks that stand together. -/
def pair (c d : Char) : Stream := [.mark c true, .mark d false]

def colons : Stream := pair ':' ':'

def arrow : Stream := pair '-' '>'

def text (s : String) : Token := .literal (.string s)

def parens (ts : Stream) : Token := .group .parenthesis ts

def brackets (ts : Stream) : Token := .group .bracket ts

def braces (ts : Stream) : Token := .group .brace ts

def angled (ts : Stream) : Stream := mark '<' :: ts ++ [mark '>']

def attr (ts : Stream) : Stream := [mark '#', brackets ts]

def commaSeparated : List Stream → Stream
  | [] => []
  | [ts] => ts
  | ts :: rest => ts ++ mark ',' :: commaSeparated rest

def absolute (names : List String) : Stream :=
  names.flatMap fun name => colons ++ [word name]

end Bindery.Wrapper
