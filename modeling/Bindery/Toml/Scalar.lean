import Bindery.Toml.Text
import Bindery.Toml.Value

set_option autoImplicit false
set_option relaxedAutoImplicit false

/-!
Numbers, truth values, dates and times of a TOML document.
-/

namespace Bindery.Toml

/-- Digits with single underscores between them. -/
def areDigits (isDigit : Char → Bool) : List Char → Bool
  | [] => false
  | [c] => isDigit c
  | c :: '_' :: rest => isDigit c && areDigits isDigit rest
  | c :: rest => isDigit c && areDigits isDigit rest

/-- The value of digits in a base; underscores do not count. -/
def digitsValue (base : Nat) (cs : List Char) : Nat :=
  (cs.filterMap hexDigit?).foldl (fun n d => n * base + d) 0

def splitSign : List Char → Bool × List Char
  | '-' :: rest => (true, rest)
  | '+' :: rest => (false, rest)
  | cs => (false, cs)

/-- Decimal digits that do not begin with a zero, unless they are a zero. -/
def isWhole (cs : List Char) : Bool :=
  areDigits Char.isDigit cs && (cs == ['0'] || cs.head? != some '0')

def word? (n : Int) : Option Int :=
  if -9223372036854775808 ≤ n ∧ n ≤ 9223372036854775807 then some n else none

def isHexDigit (c : Char) : Bool := (hexDigit? c).isSome

def isOctalDigit (c : Char) : Bool := '0' ≤ c && c ≤ '7'

def isBinaryDigit (c : Char) : Bool := c == '0' || c == '1'

def integer? : List Char → Option Int
  | '0' :: 'x' :: cs => if areDigits isHexDigit cs then word? (digitsValue 16 cs) else none
  | '0' :: 'o' :: cs => if areDigits isOctalDigit cs then word? (digitsValue 8 cs) else none
  | '0' :: 'b' :: cs => if areDigits isBinaryDigit cs then word? (digitsValue 2 cs) else none
  | cs =>
    let (negative, digits) := splitSign cs
    if isWhole digits then
      word? (if negative then -(digitsValue 10 digits : Int) else digitsValue 10 digits)
    else none

/-- Whether digits times a power of ten round to a finite binary64 number. -/
def isFinite (digits : Nat) (power : Int) : Bool :=
  let order : Int := (Nat.toDigits 10 digits).length + power
  let bound := Nat.pow 2 1024 - Nat.pow 2 970
  if digits == 0 || order < 300 then true
  else if order > 320 then false
  else if power < 0 then digits < bound * Nat.pow 10 power.natAbs
  else digits * Nat.pow 10 power.toNat < bound

/-- Splits off an exponent, if there is one; nothing if it is malformed. -/
def exponent? (cs : List Char) : Option Int :=
  match cs with
  | [] => some 0
  | c :: rest =>
    let (negative, digits) := splitSign rest
    if (c == 'e' || c == 'E') && areDigits Char.isDigit digits then
      some (if negative then -(digitsValue 10 digits : Int) else digitsValue 10 digits)
    else none

def isFloatTail (whole : List Char) : List Char → Bool
  | [] => false
  | '.' :: rest =>
    let isPart := fun (c : Char) => c.isDigit || c == '_'
    let fraction := rest.takeWhile isPart
    match exponent? (rest.dropWhile isPart) with
    | none => false
    | some e =>
      areDigits Char.isDigit fraction &&
        isFinite (digitsValue 10 (whole ++ fraction)) (e - (fraction.filter Char.isDigit).length)
  | rest =>
    match exponent? rest with
    | none => false
    | some e => isFinite (digitsValue 10 whole) e

def isFloat (cs : List Char) : Bool :=
  let body := (splitSign cs).2
  let isPart := fun (c : Char) => c.isDigit || c == '_'
  let whole := body.takeWhile isPart
  body == "inf".toList || body == "nan".toList ||
    (isWhole whole && isFloatTail whole (body.dropWhile isPart))

def daysOf (year month : Nat) : Nat :=
  if month == 2 then
    if year % 4 == 0 && (year % 100 != 0 || year % 400 == 0) then 29 else 28
  else if month == 4 || month == 6 || month == 9 || month == 11 then 30
  else 31

def fixed? (count : Nat) (cs : List Char) : Option (Nat × List Char) :=
  let digits := cs.take count
  if digits.length == count && digits.all Char.isDigit then
    some (digitsValue 10 digits, cs.drop count)
  else none

def after? (c : Char) : List Char → Option (List Char)
  | [] => none
  | d :: rest => if c == d then some rest else none

def date? (cs : List Char) : Option (List Char) := do
  let (year, cs) ← fixed? 4 cs
  let cs ← after? '-' cs
  let (month, cs) ← fixed? 2 cs
  let cs ← after? '-' cs
  let (day, cs) ← fixed? 2 cs
  if 1 ≤ month ∧ month ≤ 12 ∧ 1 ≤ day ∧ day ≤ daysOf year month then some cs else none

/-- What follows the seconds of a time of day, which may be left out. -/
def seconds? : List Char → Option (List Char)
  | ':' :: cs => do
    let (second, cs) ← fixed? 2 cs
    if second ≤ 60 then
      match cs with
      | '.' :: rest =>
        if (rest.takeWhile Char.isDigit).isEmpty then none else some (rest.dropWhile Char.isDigit)
      | _ => some cs
    else none
  | cs => some cs

def clock? (cs : List Char) : Option (List Char) := do
  let (hour, cs) ← fixed? 2 cs
  let cs ← after? ':' cs
  let (minute, cs) ← fixed? 2 cs
  if hour ≤ 23 ∧ minute ≤ 59 then some cs else none

def time? (cs : List Char) : Option (List Char) := (clock? cs).bind seconds?

def isOffset (cs : List Char) : Bool :=
  match cs with
  | [] => true
  | ['Z'] => true
  | ['z'] => true
  | c :: rest => (c == '+' || c == '-') && clock? rest == some []

def isMoment (cs : List Char) : Bool :=
  match date? cs with
  | some [] => true
  | some (c :: rest) =>
    (c == 'T' || c == 't' || c == ' ') &&
      match time? rest with
      | some tail => isOffset tail
      | none => false
  | none => time? cs == some []

def isAtomChar (c : Char) : Bool :=
  c.isAlphanum || c == '_' || c == '-' || c == '+' || c == '.' || c == ':'

def atom? (cs : List Char) : Option Value :=
  if cs == "true".toList then some (.boolean true)
  else if cs == "false".toList then some (.boolean false)
  else
    match integer? cs with
    | some n => some (.integer n)
    | none =>
      if isFloat cs then some (.float (String.ofList cs))
      else if isMoment cs then some (.moment (String.ofList cs))
      else none

/-- Splits off the text of a number, truth value, date or time; a blank may stand between a date and
a time. -/
def splitAtom (cs : List Char) : List Char × List Char :=
  let first := cs.takeWhile isAtomChar
  let rest := cs.dropWhile isAtomChar
  match rest with
  | ' ' :: c :: tail =>
    if date? first == some [] && c.isDigit then
      (first ++ ' ' :: (c :: tail).takeWhile isAtomChar, (c :: tail).dropWhile isAtomChar)
    else (first, rest)
  | _ => (first, rest)

end Bindery.Toml
