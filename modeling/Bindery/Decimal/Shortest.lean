set_option autoImplicit false
set_option relaxedAutoImplicit false

/-!
The fewest decimal digits that read back to a binary64 value. A value is decoded into an exact
fraction, the reals that round to it form an interval, and grids of one, two and more digits are
tried in turn; the first grid with a point in the interval wins, and of two points the nearer.
-/

namespace Bindery.Decimal.Shortest

/-- A finite positive binary64 value `mantissa * 2 ^ exponent`. -/
structure Binary where
  mantissa : Nat
  exponent : Int
  /-- The gap to the value below is half the gap to the value above. -/
  narrowBelow : Bool

/-- The magnitude that the bits of a finite value stand for. -/
def Binary.ofBits (bits : UInt64) : Binary :=
  let scale := ((bits >>> 52) &&& 0x7FF).toNat
  let fraction := (bits &&& 0xFFFFFFFFFFFFF).toNat
  if scale == 0 then ⟨fraction, -1074, false⟩
  else ⟨0x10000000000000 + fraction, (scale : Int) - 1075, fraction == 0 && 1 < scale⟩

/-- The decimal `digits * 10 ^ exponent`. -/
structure Expansion where
  digits : Nat
  exponent : Int
  deriving DecidableEq

/-- Compares `a * 10 ^ i` with `b * 2 ^ j`, exactly. -/
def compareScaled (a : Nat) (i : Int) (b : Nat) (j : Int) : Ordering :=
  compare (a * Nat.pow 10 i.toNat * Nat.pow 2 (-j).toNat)
    (b * Nat.pow 2 j.toNat * Nat.pow 10 (-i).toNat)

/-- Whether a decimal lies among the reals that round to the value, ties to even. -/
def Binary.readsBack (x : Binary) (d : Expansion) : Bool :=
  let low := compareScaled d.digits d.exponent
    (if x.narrowBelow then 4 * x.mantissa - 1 else 4 * x.mantissa - 2) (x.exponent - 2)
  let high := compareScaled d.digits d.exponent (4 * x.mantissa + 2) (x.exponent - 2)
  let closed := x.mantissa % 2 == 0
  (low == .gt || closed && low == .eq) && (high == .lt || closed && high == .eq)

/-- The greatest natural number at most `value / 10 ^ exponent`. -/
def Binary.floorAt (x : Binary) (exponent : Int) : Nat :=
  (x.mantissa * Nat.pow 2 x.exponent.toNat * Nat.pow 10 (-exponent).toNat) /
    (Nat.pow 2 (-x.exponent).toNat * Nat.pow 10 exponent.toNat)

/-- The least `k` with `value < 10 ^ k`, for a value that is not zero. -/
def Binary.magnitude (x : Binary) : Int :=
  let whole := x.floorAt 0
  if whole != 0 then ((Nat.toDigits 10 whole).length : Int)
  else
    match (List.range 400).find? fun j => x.floorAt (-(j + 1 : Nat)) != 0 with
    | some j => -(j : Int)
    | none => -400

/-- The point of one decimal grid that reads back, the nearer one if two do. -/
def Binary.onGrid (x : Binary) (exponent : Int) : Option Expansion :=
  let below : Expansion := ⟨x.floorAt exponent, exponent⟩
  let above : Expansion := ⟨x.floorAt exponent + 1, exponent⟩
  match x.readsBack below, x.readsBack above with
  | true, false => some below
  | false, true => some above
  | false, false => none
  | true, true =>
    match compareScaled (below.digits + above.digits) exponent x.mantissa (x.exponent + 1) with
    | .gt => some below
    | .lt => some above
    | .eq => if below.digits % 2 == 0 then some below else some above

def Expansion.strip : Nat → Expansion → Expansion
  | 0, d => d
  | steps + 1, d =>
    if d.digits != 0 && d.digits % 10 == 0 then strip steps ⟨d.digits / 10, d.exponent + 1⟩ else d

/-- The shortest decimal that reads back to the value. -/
def Binary.shortest (x : Binary) : Expansion :=
  let magnitude := x.magnitude
  let found := (List.range 17).findSome? fun n => x.onGrid (magnitude - (n + 1 : Nat))
  (found.getD ⟨x.floorAt (magnitude - 17), magnitude - 17⟩).strip 20

end Bindery.Decimal.Shortest
