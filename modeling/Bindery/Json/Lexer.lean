import Bindery.Json.Token

set_option autoImplicit false
set_option relaxedAutoImplicit false

/-!
From characters to tokens. The scanners below each take the text after the first character of a
token and report both what the token says and where the text goes on. A value that is passed over is
read less strictly than one that is kept, so the two answers can fail apart.
-/

namespace Bindery.Json.Lexer

/-- What a scanner finds: the token's content, and the text after it. -/
structure Scan (α : Type) where
  content : Except Fault α
  rest : Except Fault (List Char)

namespace Scan

def cons (c : Char) (s : Scan (List Char)) : Scan (List Char) :=
  ⟨s.content.map (c :: ·), s.rest⟩

/-- A scan that fails the same way whether or not its content is kept. -/
def fail {α : Type} (f : Fault) : Scan α := ⟨.error f, .error f⟩

end Scan

def hexDigit? (c : Char) : Option Nat :=
  if '0' ≤ c && c ≤ '9' then some (c.toNat - '0'.toNat)
  else if 'a' ≤ c && c ≤ 'f' then some (c.toNat - 'a'.toNat + 10)
  else if 'A' ≤ c && c ≤ 'F' then some (c.toNat - 'A'.toNat + 10)
  else none

def hexQuad? (a b c d : Char) : Option Nat := do
  return ((← hexDigit? a) * 4096 + (← hexDigit? b) * 256 + (← hexDigit? c) * 16 + (← hexDigit? d))

/-- The fault of a numbered escape that has no four digits: the text ends within it when fewer than
four bytes are left. -/
def shortEscape (cs : List Char) : Fault :=
  if cs.foldl (fun n c => n + c.utf8Size) 0 < 4 then .ended else .malformed

/-- The fault of a leading half that no trailing half follows. -/
def loneHalf : List Char → Fault
  | [] => .ended
  | ['\\'] => .ended
  | '\\' :: 'u' :: cs => shortEscape cs
  | _ => .malformed

def shortEscape? (c : Char) : Option Char :=
  if c == '"' || c == '\\' || c == '/' then some c
  else if c == 'b' then some '\x08'
  else if c == 'f' then some '\x0c'
  else if c == 'n' then some '\n'
  else if c == 'r' then some '\r'
  else if c == 't' then some '\t'
  else none

def pairChar (high low : Nat) : Char :=
  Char.ofNat ((high - 0xD800) * 0x400 + (low - 0xDC00) + 0x10000)

/-- Scans a string after its opening quote. Text that is only passed over may hold lone halves of
pairs; text that is kept may not. -/
def string : List Char → Scan (List Char)
  | [] => .fail .ended
  | '\\' :: 'u' :: a :: b :: c :: d :: cs =>
    match hexQuad? a b c d with
    | none => .fail .malformed
    | some n =>
      if 0xDC00 ≤ n && n ≤ 0xDFFF then ⟨.error .malformed, (string cs).rest⟩
      else if 0xD800 ≤ n && n ≤ 0xDBFF then
        match cs with
        | '\\' :: 'u' :: e :: f :: g :: h :: rest =>
          match hexQuad? e f g h with
          | none => ⟨.error .malformed, .error .malformed⟩
          | some m =>
            if 0xDC00 ≤ m && m ≤ 0xDFFF then (string rest).cons (pairChar n m)
            else ⟨.error .malformed, (string rest).rest⟩
        | other => ⟨.error (loneHalf other), (string other).rest⟩
      else (string cs).cons (Char.ofNat n)
  | '\\' :: 'u' :: cs => .fail (shortEscape cs)
  | ['\\'] => .fail .ended
  | '\\' :: c :: cs =>
    match shortEscape? c with
    | none => .fail .malformed
    | some e => (string cs).cons e
  | c :: cs =>
    if c == '"' then ⟨.ok [], .ok cs⟩
    else if c.toNat < 0x20 then .fail .malformed
    else (string cs).cons c

/-- Scans the letters that a word still lacks. -/
def word : List Char → List Char → Except Fault (List Char)
  | [], cs => .ok cs
  | _ :: _, [] => .error .ended
  | w :: ws, c :: cs => if c == w then word ws cs else .error .malformed

def noDigit : List Char → Fault
  | [] => .ended
  | _ :: _ => .malformed

/-- A number that breaks off: passed over it is malformed in every case. -/
def brokenNumber (f : Fault) : Scan Numeral := ⟨.error f, .error .malformed⟩

def exponent (sign : Bool) (whole : List Char) (fraction : Option (List Char)) :
    List Char → Scan Numeral
  | [] => ⟨.ok ⟨sign, whole, fraction, none⟩, .ok []⟩
  | c :: cs =>
    if c == 'e' || c == 'E' then
      let (minus, body) :=
        match cs with
        | '+' :: rest => (false, rest)
        | '-' :: rest => (true, rest)
        | rest => (false, rest)
      match body.takeWhile Char.isDigit with
      | [] => brokenNumber (noDigit body)
      | digits =>
        ⟨.ok ⟨sign, whole, fraction, some (minus, digits)⟩, .ok (body.dropWhile Char.isDigit)⟩
    else ⟨.ok ⟨sign, whole, fraction, none⟩, .ok (c :: cs)⟩

def afterWhole (sign : Bool) (whole : List Char) : List Char → Scan Numeral
  | '.' :: cs =>
    match cs.takeWhile Char.isDigit with
    | [] => brokenNumber (noDigit cs)
    | digits => exponent sign whole (some digits) (cs.dropWhile Char.isDigit)
  | cs => exponent sign whole none cs

/-- Scans a number after its sign. A zero stands alone before the point. -/
def number (sign : Bool) : List Char → Scan Numeral
  | [] => brokenNumber .ended
  | c :: cs =>
    if c == '0' then
      match cs with
      | d :: _ => if d.isDigit then brokenNumber .malformed else afterWhole sign [c] cs
      | [] => afterWhole sign [c] cs
    else if c.isDigit then
      afterWhole sign (c :: cs.takeWhile Char.isDigit) (cs.dropWhile Char.isDigit)
    else brokenNumber .malformed

theorem string_rest_length {cs rest : List Char} (h : (string cs).rest = .ok rest) :
    rest.length < cs.length := by
  fun_induction string cs generalizing rest
  all_goals simp only [Scan.fail, Scan.cons, List.length_cons] at *
  all_goals first
    | (cases h <;> omega)
    | (rename_i ih; have shorter := ih h; omega)

theorem word_rest_length {ws cs rest : List Char} (h : word ws cs = .ok rest) :
    rest.length ≤ cs.length := by
  fun_induction word ws cs generalizing rest with
  | case1 => cases h; exact Nat.le_refl _
  | case2 => cases h
  | case3 _ _ _ _ _ ih => exact Nat.le_succ_of_le (ih h)
  | case4 => cases h

private theorem dropWhile_length (p : Char → Bool) (cs : List Char) :
    (cs.dropWhile p).length ≤ cs.length :=
  (List.dropWhile_sublist p).length_le

theorem exponent_rest_length {sign : Bool} {whole : List Char} {fraction : Option (List Char)}
    {cs rest : List Char} (h : (exponent sign whole fraction cs).rest = .ok rest) :
    rest.length ≤ cs.length := by
  cases cs with
  | nil => cases h; exact Nat.le_refl _
  | cons c cs =>
      simp only [exponent] at h
      split at h
      · split at h
        · cases h
        · cases h
          have dropped := dropWhile_length Char.isDigit
          split
          · exact Nat.le_succ_of_le (Nat.le_succ_of_le (dropped _))
          · exact Nat.le_succ_of_le (Nat.le_succ_of_le (dropped _))
          · exact Nat.le_succ_of_le (dropped _)
      · cases h
        exact Nat.le_refl _

theorem afterWhole_rest_length {sign : Bool} {whole cs rest : List Char}
    (h : (afterWhole sign whole cs).rest = .ok rest) : rest.length ≤ cs.length := by
  unfold afterWhole at h
  split at h
  · split at h
    · cases h
    · have shorter := exponent_rest_length h
      have dropped := dropWhile_length Char.isDigit
      exact Nat.le_succ_of_le (Nat.le_trans shorter (dropped _))
  · exact exponent_rest_length h

theorem number_rest_length {sign : Bool} {cs rest : List Char}
    (h : (number sign cs).rest = .ok rest) : rest.length < cs.length := by
  cases cs with
  | nil => cases h
  | cons c cs =>
      simp only [number] at h
      split at h
      · split at h
        · split at h
          · cases h
          · exact Nat.lt_succ_of_le (afterWhole_rest_length h)
        · exact Nat.lt_succ_of_le (afterWhole_rest_length h)
      · split at h
        · exact Nat.lt_succ_of_le
            (Nat.le_trans (afterWhole_rest_length h) (dropWhile_length _ _))
        · cases h

set_option linter.unusedVariables false in
/-- The tokens of a text. After a token whose text cannot be passed over comes a `halt`, and nothing
follows a `halt` or a broken word. -/
def tokens (cs : List Char) : List Token :=
  match cs with
  | [] => []
  | c :: cs =>
    if isBlank c then tokens cs
    else
      match Mark.ofChar? c with
      | some m => .mark m :: tokens cs
      | none =>
        if c == '"' then
          .string ((string cs).content.map String.ofList) ::
            (match h : (string cs).rest with
              | .ok rest => tokens rest
              | .error f => [.halt f])
        else if c == '-' || c.isDigit then
          let minus := c == '-'
          let body := if minus then cs else c :: cs
          .number (number minus body).content ::
            (match h : (number minus body).rest with
              | .ok rest => tokens rest
              | .error f => [.halt f])
        else
          match Word.ofInitial? c with
          | some w =>
            match h : word w.letters.tail cs with
            | .ok rest => .word w none :: tokens rest
            | .error f => [.word w (some f)]
          | none => [.halt .malformed]
termination_by cs.length
decreasing_by
  · exact Nat.lt_succ_self _
  · exact Nat.lt_succ_self _
  · exact Nat.lt_succ_of_lt (string_rest_length h)
  · have bound : body.length ≤ cs.length + 1 := by
      simp only [body]
      split <;> simp
    exact Nat.lt_of_lt_of_le (number_rest_length h) bound
  · exact Nat.lt_succ_of_le (word_rest_length h)

end Bindery.Json.Lexer
