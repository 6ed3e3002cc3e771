import Bindery.CratePath.Gap
import Bindery.Text.Identifier
import Bindery.Text.OrderMark
import Bindery.Wrapper.Token

set_option autoImplicit false
set_option relaxedAutoImplicit false

/-!
Paths to modules of the target language, such as `::a::b`. Generic arguments, which the language
also takes in a path, are not read here.
-/

namespace Bindery

open Wrapper (Stream Token colons)

/-- A segment of a path; a raw one may be spelled like a keyword. -/
structure Segment where
  name : String
  raw : Bool
  deriving DecidableEq, Repr

/-- A path, absolute if it begins with colons. -/
structure CratePath where
  isAbsolute : Bool
  segments : List Segment
  deriving DecidableEq, Repr

namespace CratePath

def segmentToken (s : Segment) : Token := .ident s.name s.raw

/-- The tokens of segments with colons between them. -/
def segmentTokens : List Segment → Stream
  | [] => []
  | [s] => [segmentToken s]
  | s :: rest => segmentToken s :: colons ++ segmentTokens rest

def tokens (p : CratePath) : Stream :=
  (if p.isAbsolute then colons else []) ++ segmentTokens p.segments

def render (p : CratePath) : String := Wrapper.renderStream p.tokens

def root (name : String) : CratePath := ⟨true, [⟨name, false⟩]⟩

/-- Names that a path may use although they are keywords. -/
def pathWords : List String := ["crate", "self", "super", "Self"]

def keywords : List String :=
  ["abstract", "as", "async", "await", "become", "box", "break", "const", "continue", "do", "dyn",
    "else", "enum", "extern", "false", "final", "fn", "for", "if", "impl", "in", "let", "loop",
    "macro", "match", "mod", "move", "mut", "override", "priv", "pub", "ref", "return", "static",
    "struct", "trait", "true", "try", "type", "typeof", "unsafe", "unsized", "use", "virtual",
    "where", "while", "yield", "_"]

inductive Piece where
  | colons
  | segment (s : Segment)
  deriving DecidableEq, Repr

def identifier? : List Char → Option (String × List Char)
  | [] => none
  | c :: cs =>
    if Text.Identifier.isStart c then
      some (String.ofList (c :: cs.takeWhile Text.Identifier.isContinue),
        cs.dropWhile Text.Identifier.isContinue)
    else none

def segment? : List Char → Option (Segment × List Char)
  | 'r' :: '#' :: cs =>
    match identifier? cs with
    | none => none
    | some (name, rest) =>
      if name ∈ "_" :: pathWords then none else some (⟨name, true⟩, rest)
  | cs => (identifier? cs).map fun (name, rest) => (⟨name, false⟩, rest)

theorem segment?_length {cs rest : List Char} {s : Segment} (h : segment? cs = some (s, rest)) :
    rest.length < cs.length := by
  have shorter : ∀ {ds : List Char} {name : String} {after : List Char},
      identifier? ds = some (name, after) → after.length < ds.length := by
    intro ds name after found
    unfold identifier? at found
    split at found
    · cases found
    · split at found
      · cases found
        exact Nat.lt_succ_of_le (List.dropWhile_sublist _).length_le
      · cases found
  unfold segment? at h
  split at h
  · split at h
    · cases h
    · rename_i found
      split at h
      · cases h
      · cases h
        exact Nat.lt_succ_of_lt (Nat.lt_succ_of_lt (shorter found))
  · rcases found : identifier? cs with _ | ⟨name, after⟩
    · simp [found] at h
    · simp only [found, Option.map_some, Option.some.injEq, Prod.mk.injEq] at h
      rw [← h.2]
      exact shorter found

set_option linter.unusedVariables false in
/-- The pieces of the text of a path, if it has no others. -/
def pieces? (cs : List Char) : Option (List Piece) :=
  match cs with
  | [] => some []
  | c :: rest =>
    if isSpace c then pieces? rest
    else if c == ':' then
      match rest with
      | ':' :: after => (pieces? after).map (.colons :: ·)
      | _ => none
    else
      match h : afterComment? (c :: rest) with
      | some after => pieces? after
      | none =>
        match h : segment? (c :: rest) with
        | none => none
        | some (s, after) => (pieces? after).map (.segment s :: ·)
termination_by cs.length
decreasing_by
  · exact Nat.lt_succ_self _
  · simp only [List.length_cons]
    omega
  · exact afterComment?_length h
  · exact segment?_length h

def textPieces? (text : String) : Option (List Piece) :=
  pieces? (Text.dropOrderMark text.toList)

/-- Segments with colons between them. -/
def segments? (allowed : Segment → Bool) : List Piece → Option (List Segment)
  | [.segment s] => if allowed s then some [s] else none
  | .segment s :: .colons :: rest =>
    if allowed s then (segments? allowed rest).map (s :: ·) else none
  | _ => none

/-- Whether a segment may stand in a path. -/
def isPathSegment (s : Segment) : Bool := s.raw || s.name ∉ keywords

def isName (s : Segment) : Bool := s.raw || s.name ∉ keywords ++ pathWords

/-- Reads a path of plain segments. -/
def parse? (text : String) : Option CratePath :=
  match textPieces? text with
  | none => none
  | some (.colons :: rest) => (segments? isPathSegment rest).map (⟨true, ·⟩)
  | some rest => (segments? isPathSegment rest).map (⟨false, ·⟩)

def name? (text : String) : Option Segment :=
  match textPieces? text with
  | some [.segment s] => if isName s then some s else none
  | _ => none

end CratePath

end Bindery
