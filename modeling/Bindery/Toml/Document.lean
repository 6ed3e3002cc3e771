import Bindery.Text.OrderMark
import Bindery.Toml.Scalar
import Bindery.Toml.Table

set_option autoImplicit false
set_option relaxedAutoImplicit false

/-!
Reading a TOML document. Every step of the reader takes at least one character, so the length of the
text bounds the steps.
-/

namespace Bindery.Toml

inductive Statement where
  | header (path : KeyPath)
  | arrayHeader (path : KeyPath)
  | assignment (a : Assignment)

def dropBlanks (cs : List Char) : List Char := cs.dropWhile isBlank

def isKeyChar (c : Char) : Bool := c.isAlphanum || c == '_' || c == '-'

def simpleKey? : List Char → Option (String × List Char)
  | '"' :: rest => asString (quoted rest)
  | '\'' :: rest => asString (literal rest)
  | cs =>
    if (cs.takeWhile isKeyChar).isEmpty then none
    else some (String.ofList (cs.takeWhile isKeyChar), cs.dropWhile isKeyChar)

def maxKeys : Nat := 80

/-- Reads a key of at most the given number of keys, and the blanks after it. -/
def keyPath? : Nat → List Char → Option (KeyPath × List Char)
  | 0, _ => none
  | count + 1, cs => do
    let (key, cs) ← simpleKey? (dropBlanks cs)
    match dropBlanks cs with
    | '.' :: rest =>
      let (path, cs) ← keyPath? count rest
      some (⟨key :: path.parents, path.name⟩, cs)
    | cs => some (⟨[], key⟩, cs)

/-- Skips blanks, line ends and comments. -/
def gap? (inComment : Bool) : List Char → Option (List Char)
  | [] => some []
  | '\r' :: '\n' :: rest => gap? false rest
  | '\n' :: rest => gap? false rest
  | c :: rest =>
    if inComment then if isLineChar c then gap? true rest else none
    else if isBlank c then gap? false rest
    else if c == '#' then gap? true rest
    else some (c :: rest)

def lineEnd? (cs : List Char) : Option (List Char) :=
  let cs := dropBlanks cs
  let cs := if cs.head? == some '#' then cs.dropWhile isLineChar else cs
  match cs with
  | [] => some []
  | '\n' :: rest => some rest
  | '\r' :: '\n' :: rest => some rest
  | _ => none

mutual

/-- Reads a value in which arrays and tables are nested up to the given depth. -/
def value? : Nat → Nat → List Char → Option (Value × List Char)
  | 0, _, _ => none
  | _ + 1, 0, '[' :: _ => none
  | _ + 1, 0, '\x7b' :: _ => none
  | steps + 1, depth + 1, '[' :: rest => do
    let (vs, cs) ← elements? steps depth rest
    some (.array vs, cs)
  | steps + 1, depth + 1, '\x7b' :: rest => do
    let (as, cs) ← members? steps depth rest
    let entries ← assignAll .inline [] as
    some (.table .inline entries, cs)
  | _ + 1, _, '"' :: rest => do
    let (s, cs) ← string? ('"' :: rest)
    some (.text s, cs)
  | _ + 1, _, '\'' :: rest => do
    let (s, cs) ← string? ('\'' :: rest)
    some (.text s, cs)
  | _ + 1, _, cs => do
    let v ← atom? (splitAtom cs).1
    some (v, (splitAtom cs).2)

def elements? : Nat → Nat → List Char → Option (List Value × List Char)
  | 0, _, _ => none
  | steps + 1, depth, cs => do
    match ← gap? false cs with
    | ']' :: rest => some ([], rest)
    | cs =>
      let (v, cs) ← value? steps depth cs
      match ← gap? false cs with
      | ',' :: rest =>
        let (vs, cs) ← elements? steps depth rest
        some (v :: vs, cs)
      | ']' :: rest => some ([v], rest)
      | _ => none

def members? : Nat → Nat → List Char → Option (List Assignment × List Char)
  | 0, _, _ => none
  | steps + 1, depth, cs => do
    match ← gap? false cs with
    | '\x7d' :: rest => some ([], rest)
    | cs =>
      let (path, cs) ← keyPath? maxKeys cs
      match ← gap? false cs with
      | '=' :: rest =>
        let (v, cs) ← value? steps depth (← gap? false rest)
        match ← gap? false cs with
        | ',' :: rest =>
          let (as, cs) ← members? steps depth rest
          some (⟨path, v⟩ :: as, cs)
        | '\x7d' :: rest => some ([⟨path, v⟩], rest)
        | _ => none
      | _ => none

end

def maxDepth : Nat := 80

def statements? : Nat → List Char → Option (List Statement)
  | 0, _ => none
  | steps + 1, cs =>
    match dropBlanks cs with
    | [] => some []
    | '[' :: '[' :: rest => do
      let (path, cs) ← keyPath? maxKeys rest
      match cs with
      | ']' :: ']' :: rest =>
        let more ← statements? steps (← lineEnd? rest)
        some (.arrayHeader path :: more)
      | _ => none
    | '[' :: rest => do
      let (path, cs) ← keyPath? maxKeys rest
      match cs with
      | ']' :: rest =>
        let more ← statements? steps (← lineEnd? rest)
        some (.header path :: more)
      | _ => none
    | c :: rest =>
      match lineEnd? (c :: rest) with
      | some cs => statements? steps cs
      | none => do
        let (path, cs) ← keyPath? maxKeys (c :: rest)
        match cs with
        | '=' :: rest =>
          let (v, cs) ← value? (steps + 1) maxDepth (dropBlanks rest)
          let more ← statements? steps (← lineEnd? cs)
          some (.assignment ⟨path, v⟩ :: more)
        | _ => none

/-- The assignments before the first header, and the sections. -/
def sections (statements : List Statement) : List Assignment × List Section :=
  statements.foldr
    (fun statement (top, rest) =>
      match statement with
      | .assignment a => (a :: top, rest)
      | .header path => ([], ⟨path, false, top⟩ :: rest)
      | .arrayHeader path => ([], ⟨path, true, top⟩ :: rest))
    ([], [])

def parse? (text : String) : Option Entries := do
  let cs := Text.dropOrderMark text.toList
  let (top, rest) := sections (← statements? (2 * cs.length + 2) cs)
  let root ← assignAll .header [] top
  addSections root rest

end Bindery.Toml
