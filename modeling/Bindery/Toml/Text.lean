set_option autoImplicit false
set_option relaxedAutoImplicit false

/-!
Strings of a TOML document: between quotes with escapes, between apostrophes without, and both kinds
over several lines between three delimiters.
-/

namespace Bindery.Toml

def isBlank (c : Char) : Bool := c == ' ' || c == '\t'

def isLineChar (c : Char) : Bool := c == '\t' || (' ' ≤ c && c != '\x7f')

def hexDigit? (c : Char) : Option Nat :=
  if c.isDigit then some (c.toNat - '0'.toNat)
  else if 'a' ≤ c && c ≤ 'f' then some (c.toNat - 'a'.toNat + 10)
  else if 'A' ≤ c && c ≤ 'F' then some (c.toNat - 'A'.toNat + 10)
  else none

def hexValue? (cs : List Char) : Option Nat :=
  cs.foldl (fun n c => n.bind fun n => (hexDigit? c).map fun d => n * 16 + d) (some 0)

/-- The character of a code point, which must not be a surrogate. -/
def scalar? (n : Nat) : Option Char := if n.isValidChar then some (Char.ofNat n) else none

def shortEscape? : Char → Option Char
  | 'b' => some '\x08'
  | 't' => some '\t'
  | 'n' => some '\n'
  | 'f' => some '\x0c'
  | 'r' => some '\r'
  | 'e' => some '\x1b'
  | '"' => some '"'
  | '\\' => some '\\'
  | _ => none

def pushFront (c : Char) (read : Option (List Char × List Char)) : Option (List Char × List Char) :=
  read.map fun (text, rest) => (c :: text, rest)

def quoted : List Char → Option (List Char × List Char)
  | [] => none
  | '"' :: rest => some ([], rest)
  | '\\' :: 'x' :: a :: b :: rest => do
    let ch ← (hexValue? [a, b]).bind scalar?
    pushFront ch (quoted rest)
  | '\\' :: 'u' :: a :: b :: c :: d :: rest => do
    let ch ← (hexValue? [a, b, c, d]).bind scalar?
    pushFront ch (quoted rest)
  | '\\' :: 'U' :: a :: b :: c :: d :: e :: f :: g :: h :: rest => do
    let ch ← (hexValue? [a, b, c, d, e, f, g, h]).bind scalar?
    pushFront ch (quoted rest)
  | '\\' :: c :: rest => do
    let ch ← shortEscape? c
    pushFront ch (quoted rest)
  | c :: rest => if isLineChar c then pushFront c (quoted rest) else none

def literal : List Char → Option (List Char × List Char)
  | [] => none
  | '\'' :: rest => some ([], rest)
  | c :: rest => if isLineChar c then pushFront c (literal rest) else none

/-- The end of a string of several lines: the delimiters that belong to the text, and what follows
the three that end it. -/
def fence? (mark : Char) (cs : List Char) : Option (List Char × List Char) :=
  let run := cs.takeWhile (· == mark)
  if run.length < 3 then none
  else
    let extra := min (run.length - 3) 2
    some (run.take extra, cs.drop (extra + 3))

def endsLine (cs : List Char) : Bool :=
  match cs.dropWhile isBlank with
  | '\n' :: _ => true
  | '\r' :: '\n' :: _ => true
  | _ => false

/-- Reads a quoted string of several lines after its opening; a backslash at the end of a line skips
to the next text. -/
def quotedLines (skipping : Bool) : List Char → Option (List Char × List Char)
  | [] => none
  | '\r' :: '\n' :: rest =>
    if skipping then quotedLines true rest else pushFront '\n' (quotedLines false rest)
  | '\n' :: rest =>
    if skipping then quotedLines true rest else pushFront '\n' (quotedLines false rest)
  | '\\' :: 'x' :: a :: b :: rest => do
    let ch ← (hexValue? [a, b]).bind scalar?
    pushFront ch (quotedLines false rest)
  | '\\' :: 'u' :: a :: b :: c :: d :: rest => do
    let ch ← (hexValue? [a, b, c, d]).bind scalar?
    pushFront ch (quotedLines false rest)
  | '\\' :: 'U' :: a :: b :: c :: d :: e :: f :: g :: h :: rest => do
    let ch ← (hexValue? [a, b, c, d, e, f, g, h]).bind scalar?
    pushFront ch (quotedLines false rest)
  | '\\' :: c :: rest =>
    if endsLine (c :: rest) then quotedLines true (c :: rest)
    else do
      let ch ← shortEscape? c
      pushFront ch (quotedLines false rest)
  | c :: rest =>
    if skipping && isBlank c then quotedLines true rest
    else
      match fence? '"' (c :: rest) with
      | some read => some read
      | none => if isLineChar c then pushFront c (quotedLines false rest) else none

def literalLines : List Char → Option (List Char × List Char)
  | [] => none
  | '\r' :: '\n' :: rest => pushFront '\n' (literalLines rest)
  | '\n' :: rest => pushFront '\n' (literalLines rest)
  | c :: rest =>
    match fence? '\'' (c :: rest) with
    | some read => some read
    | none => if isLineChar c then pushFront c (literalLines rest) else none

def dropLineEnd : List Char → List Char
  | '\r' :: '\n' :: rest => rest
  | '\n' :: rest => rest
  | cs => cs

def asString (read : Option (List Char × List Char)) : Option (String × List Char) :=
  read.map fun (text, rest) => (String.ofList text, rest)

def string? : List Char → Option (String × List Char)
  | '"' :: '"' :: '"' :: rest => asString (quotedLines false (dropLineEnd rest))
  | '"' :: rest => asString (quoted rest)
  | '\'' :: '\'' :: '\'' :: rest => asString (literalLines (dropLineEnd rest))
  | '\'' :: rest => asString (literal rest)
  | _ => none

end Bindery.Toml
