import Bindery.Json.Token

set_option autoImplicit false
set_option relaxedAutoImplicit false

/-!
The values of numerals. A numeral without fraction and exponent that fits 64 bits is an integer;
every other one is a binary64 value, taken from the leading digits that fit 64 bits and a power of
ten.
-/

namespace Bindery.Json

inductive Number where
  | integer (n : Int)
  | float (x : Float)

namespace Numeral

def wordMax : Nat := 18446744073709551615

def digitValue (c : Char) : Nat := c.toNat - '0'.toNat

/-- Appends digits to a significand for as long as it stays within 64 bits, and returns the digits
that are left. -/
def absorb (significand : Nat) : List Char → Nat × List Char
  | [] => (significand, [])
  | c :: cs =>
    let next := significand * 10 + digitValue c
    if next ≤ wordMax then absorb next cs else (significand, c :: cs)

/-- Divides by a power of ten that has no binary64 value of its own, in steps of `10 ^ 308`. -/
def shrink : Nat → Float → Nat → Float
  | 0, x, _ => x
  | steps + 1, x, power =>
    if power ≤ 308 then x / Float.ofScientific 1 false power
    else if x == 0 then x
    else shrink steps (x / 1e308) (power - 308)

/-- A significand times a power of ten, refused when it is too large. -/
def scale (significand : Nat) (power : Int) : Except Fault Float :=
  let x := significand.toUInt64.toFloat
  if power < 0 then .ok (shrink 4 x power.natAbs)
  else if power ≤ 308 then
    let y := x * Float.ofScientific 1 false power.toNat
    if y.isInf then .error .malformed else .ok y
  else if x == 0 then .ok x
  else .error .malformed

def digitsValue (cs : List Char) : Nat :=
  cs.foldl (fun n c => n * 10 + digitValue c) 0

/-- The largest exponent that is taken at its word. -/
def exponentMax : Nat := 2147483647

def scaleBy (significand : Nat) (power : Int) : Option (Bool × List Char) → Except Fault Float
  | none => scale significand power
  | some (minus, digits) =>
    let e := digitsValue digits
    if e ≤ exponentMax then
      scale significand (if minus then power - (e : Int) else power + (e : Int))
    else if significand != 0 && !minus then .error .malformed
    else .ok 0

def value (n : Numeral) : Except Fault Number :=
  let (significand, left) := absorb 0 n.whole
  match left, n.fraction, n.exponent with
  | [], none, none =>
    if !n.negative then .ok (.integer significand)
    else if 1 ≤ significand && significand ≤ 9223372036854775808 then
      .ok (.integer (-(significand : Int)))
    else .ok (.float (-significand.toUInt64.toFloat))
  | _, _, _ =>
    let fraction := n.fraction.getD []
    let (significand, unread) := absorb significand fraction
    let power : Int := (left.length : Int) - (fraction.length - unread.length : Nat)
    match scaleBy significand power n.exponent with
    | .error f => .error f
    | .ok x => .ok (.float (if n.negative then -x else x))

end Numeral

end Bindery.Json
