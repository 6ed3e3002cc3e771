import Bindery.Decimal.Shortest

set_option autoImplicit false
set_option relaxedAutoImplicit false

/-!
How binary64 values appear in messages: with the fewest digits that identify them, positionally
while the leading digit stands between the fifth place after the point and the sixteenth before it,
and otherwise with a signed exponent.
-/

namespace Bindery.Decimal.Notation

open Shortest

/-- Lays out decimal digits around a point or before an exponent. -/
def layout (d : Expansion) : List Char :=
  let digits := Nat.toDigits 10 d.digits
  let lead : Int := d.exponent + digits.length - 1
  if -5 ≤ lead && lead ≤ 15 then
    if 0 ≤ d.exponent then digits ++ List.replicate d.exponent.toNat '0' ++ ['.', '0']
    else if 0 ≤ lead then digits.take (lead.toNat + 1) ++ ['.'] ++ digits.drop (lead.toNat + 1)
    else ['0', '.'] ++ List.replicate (-lead - 1).toNat '0' ++ digits
  else
    let mark := if lead < 0 then ['e', '-'] else ['e', '+']
    let significand :=
      match digits with
      | [] => []
      | [c] => [c]
      | c :: cs => c :: '.' :: cs
    significand ++ mark ++ Nat.toDigits 10 lead.natAbs

def render (x : Float) : String :=
  let bits := x.toBits
  let sign := if bits >>> 63 == 1 then ['-'] else []
  let magnitude := Binary.ofBits bits
  let body := if magnitude.mantissa == 0 then ['0', '.', '0'] else layout magnitude.shortest
  String.ofList (sign ++ body)

end Bindery.Decimal.Notation
