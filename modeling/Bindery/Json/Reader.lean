import Bindery.Json.Lexer
import Bindery.Json.Skip

set_option autoImplicit false
set_option relaxedAutoImplicit false

/-!
Readers of typed values. Tokens are read from left to right and the first thing that is wrong
decides, so a misshapen value is reported before text further on that is no JSON at all. Every
bracket that a reader opens counts against a depth; brackets of values that are passed over do not.
-/

namespace Bindery.Json

/-- Reads a value from the front of the tokens and returns the tokens after it. -/
abbrev Reader (α : Type) := List Token → Except ReadError (α × List Token)

namespace Reader

variable {α σ : Type}

/-- The number of brackets that may be open at once. -/
def depthLimit : Nat := 127

def malformed : Except ReadError α := .error (.fault .malformed)

/-- The reason for which the next token is not what was expected. -/
def mismatch (expected : String) : List Token → ReadError
  | [] => .fault .ended
  | .mark .openBrace :: _ => .unfit (.invalidType .map expected)
  | .mark .openBracket :: _ => .unfit (.invalidType .sequence expected)
  | .mark _ :: _ => .fault .malformed
  | .word _ (some f) :: _ => .fault f
  | .word .null none :: _ => .unfit (.invalidType .null expected)
  | .word (.boolean b) none :: _ => .unfit (.invalidType (.boolean b) expected)
  | .string (.ok s) :: _ => .unfit (.invalidType (.string s) expected)
  | .string (.error f) :: _ => .fault f
  | .number (.error f) :: _ => .fault f
  | .number (.ok n) :: _ =>
    match n.value with
    | .error f => .fault f
    | .ok v => .unfit (.invalidType (.number v) expected)
  | .halt f :: _ => .fault f

def mark (m : Mark) : List Token → Except ReadError (List Token)
  | [] => .error (.fault .ended)
  | .halt f :: _ => .error (.fault f)
  | .mark k :: ts => if k = m then .ok ts else malformed
  | _ => malformed

def string : Reader String
  | .string (.ok s) :: ts => .ok (s, ts)
  | ts => .error (mismatch "a string" ts)

def word64 : Reader UInt64
  | .number (.ok n) :: ts =>
    match n.value with
    | .error f => .error (.fault f)
    | .ok (.integer (.ofNat v)) => .ok (v.toUInt64, ts)
    | .ok (.integer v) => .error (.unfit (.invalidValue (.number (.integer v)) "u64"))
    | .ok (.float x) => .error (.unfit (.invalidType (.number (.float x)) "u64"))
  | ts => .error (mismatch "u64" ts)

def null : Reader Unit
  | .word .null none :: ts => .ok ((), ts)
  | ts => .error (mismatch "unit" ts)

/-- Reads `null` as nothing and anything else as a value. -/
def optional (item : Reader α) : Reader (Option α)
  | .word .null none :: ts => .ok (none, ts)
  | .word .null (some f) :: _ => .error (.fault f)
  | ts =>
    match item ts with
    | .error e => .error e
    | .ok (a, rest) => .ok (some a, rest)

/-- What a list reader finds where an element may stand: the end, or the tokens of an element. -/
inductive Next where
  | finished (rest : List Token)
  | element (ts : List Token)

/-- Looks for the next element of a list or record written in brackets. -/
def next (first : Bool) : List Token → Except ReadError Next
  | [] => .error (.fault .ended)
  | .mark .closeBracket :: ts => .ok (.finished ts)
  | .mark .comma :: ts =>
    if first then malformed
    else
      match ts with
      | [] => .error (.fault .ended)
      | .mark .closeBracket :: _ => malformed
      | ts => .ok (.element ts)
  | t :: ts =>
    if first then .ok (.element (t :: ts))
    else
      match t with
      | .halt f => .error (.fault f)
      | _ => malformed

/-- Reads the elements of a list after its opening bracket. Every element takes up a token, so as
many steps suffice as there are tokens. -/
def elements (item : Reader α) : (bound : List Token) → (first : Bool) → Reader (List α)
  | [], _, _ => .error (.fault .ended)
  | _ :: bound, first, ts =>
    match next first ts with
    | .error e => .error e
    | .ok (.finished rest) => .ok ([], rest)
    | .ok (.element ts) =>
      match item ts with
      | .error e => .error e
      | .ok (a, rest) =>
        match elements item bound false rest with
        | .error e => .error e
        | .ok (as, rest) => .ok (a :: as, rest)

def list : (depth : Nat) → (item : (d : Nat) → d < depth → Reader α) → Reader (List α)
  | depth, item, .mark .openBracket :: ts =>
    match depth with
    | 0 => malformed
    | d + 1 => elements (item d (Nat.lt_succ_self d)) (.mark .openBracket :: ts) true ts
  | _, _, ts => .error (mismatch "a sequence" ts)

/-- One field of a record while it is being read: its name, whether it has been read, whether a
record in brackets may lack it, and how its value is read into the record. -/
structure FieldRule (σ : Type) where
  name : String
  present : σ → Bool
  required : Bool
  read : σ → Reader σ

/-- Reads the key of a member of an object; `none` stands for the closing brace. -/
def key (first : Bool) : Reader (Option String)
  | [] => .error (.fault .ended)
  | .halt f :: _ => .error (.fault f)
  | .mark .closeBrace :: ts => .ok (none, ts)
  | .string k :: ts =>
    if first then
      match k with
      | .ok k => .ok (some k, ts)
      | .error f => .error (.fault f)
    else malformed
  | .mark .comma :: ts =>
    if first then malformed
    else
      match ts with
      | [] => .error (.fault .ended)
      | .string (.ok k) :: ts => .ok (some k, ts)
      | .string (.error f) :: _ => .error (.fault f)
      | .halt f :: _ => .error (.fault f)
      | _ => malformed
  | _ => malformed

/-- Reads a member of an object into a record, or passes over it if the record has no such field. -/
def member (rules : List (FieldRule σ)) (k : String) (state : σ) : Reader σ := fun ts =>
  match rules.find? fun r => r.name == k with
  | none =>
    match mark .colon ts with
    | .error e => .error e
    | .ok ts =>
      match Skip.one ts with
      | .error e => .error e
      | .ok ts => .ok (state, ts)
  | some r =>
    if r.present state then .error (.unfit (.duplicateField r.name))
    else
      match mark .colon ts with
      | .error e => .error e
      | .ok ts => r.read state ts

/-- Reads the members of an object after its opening brace. -/
def members (rules : List (FieldRule σ)) :
    (bound : List Token) → (first : Bool) → (state : σ) → Reader σ
  | [], _, _, _ => .error (.fault .ended)
  | _ :: bound, first, state, ts =>
    match key first ts with
    | .error e => .error e
    | .ok (none, rest) => .ok (state, rest)
    | .ok (some k, rest) =>
      match member rules k state rest with
      | .error e => .error e
      | .ok (state, rest) => members rules bound false state rest

/-- Reads the fields of a record in brackets, in their order, after the opening bracket. -/
def positions (expected : String) :
    (index : Nat) → (first : Bool) → List (FieldRule σ) → (state : σ) → Reader σ
  | _, _, [], state, ts =>
    match mark .closeBracket ts with
    | .error e => .error e
    | .ok rest => .ok (state, rest)
  | index, first, r :: rules, state, ts =>
    match next first ts with
    | .error e => .error e
    | .ok (.finished _) =>
      if r.required then .error (.unfit (.invalidLength index expected))
      else positions expected (index + 1) first rules state ts
    | .ok (.element ts) =>
      match r.read state ts with
      | .error e => .error e
      | .ok (state, rest) => positions expected (index + 1) false rules state rest

def complete (finish : σ → Except Complaint α) :
    Except ReadError (σ × List Token) → Except ReadError (α × List Token)
  | .error e => .error e
  | .ok (state, rest) =>
    match finish state with
    | .error c => .error (.unfit c)
    | .ok a => .ok (a, rest)

/-- Reads a record, written as an object or as its fields in brackets. -/
def record (expected : String) (initial : σ) (finish : σ → Except Complaint α) :
    (depth : Nat) → (rules : (d : Nat) → d < depth → List (FieldRule σ)) → Reader α
  | depth, rules, .mark .openBrace :: ts =>
    match depth with
    | 0 => malformed
    | d + 1 =>
      complete finish
        (members (rules d (Nat.lt_succ_self d)) (.mark .openBrace :: ts) true initial ts)
  | depth, rules, .mark .openBracket :: ts =>
    match depth with
    | 0 => malformed
    | d + 1 =>
      let rules := rules d (Nat.lt_succ_self d)
      let counted := expected ++ " with " ++ toString rules.length ++ " elements"
      complete finish (positions counted 0 true rules initial ts)
  | _, _, ts => .error (mismatch expected ts)

def known (names : List String) (name : String) : Except ReadError Unit :=
  if name ∈ names then .ok () else .error (.unfit (.unknownVariant name names))

/-- Reads the key that names a variant. Text that has no string there is no JSON object. -/
def variantKey (names : List String) : Reader String
  | [] => .error (.fault .ended)
  | .string (.error f) :: _ => .error (.fault f)
  | .string (.ok name) :: ts =>
    match known names name with
    | .error e => .error e
    | .ok () => .ok (name, ts)
  | _ => malformed

/-- Reads a value of several variants: a name alone, or an object whose one key is the name. -/
def variant (names : List String) (bare : String → Except Complaint α) :
    (depth : Nat) → (body : (d : Nat) → d < depth → String → Reader α) → Reader α
  | depth, body, .mark .openBrace :: ts =>
    match depth with
    | 0 => malformed
    | d + 1 =>
      match variantKey names ts with
      | .error e => .error e
      | .ok (name, ts) =>
        match mark .colon ts with
        | .error e => .error e
        | .ok ts =>
          match body d (Nat.lt_succ_self d) name ts with
          | .error e => .error e
          | .ok (a, ts) =>
            match mark .closeBrace ts with
            | .error e => .error e
            | .ok ts => .ok (a, ts)
  | _, _, .string (.ok name) :: ts =>
    match known names name with
    | .error e => .error e
    | .ok () =>
      match bare name with
      | .error c => .error (.unfit c)
      | .ok a => .ok (a, ts)
  | _, _, .string (.error f) :: _ => .error (.fault f)
  | _, _, .halt f :: _ => .error (.fault f)
  | _, _, [] => .error (.fault .ended)
  | _, _, _ => malformed

def text (reader : Reader α) (s : String) : Except ReadError α :=
  match reader (Lexer.tokens s.toList) with
  | .error e => .error e
  | .ok (a, []) => .ok a
  | .ok (_, _ :: _) => malformed

end Reader

end Bindery.Json
