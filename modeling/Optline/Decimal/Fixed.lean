import Optline.Decimal.Binary

/-!
# Two places

Seconds are written with two decimal places: the exact binary value rounded to a hundredth, a half
going to the even neighbour, and the sign kept even where nothing but zeros is left.

* `hundredths` — the rounded count of hundredths.
* `twoPlaces` — the text of a number.
-/

namespace Optline.Decimal

/-- The number `significand · 2 ^ exponent` in hundredths. -/
def hundredths (significand : Nat) (exponent : Int) : Nat :=
  let (num, den) := scaleDown 2 (100 * significand) 1 (-exponent)
  divToEven num den

/-- A count of hundredths with its point. -/
def pointed (n : Nat) : String :=
  let cents := toString (n % 100)
  toString (n / 100) ++ "." ++ (if cents.length = 1 then "0" ++ cents else cents)

/-- The text of a number with two places. -/
def twoPlaces (x : Float) : String :=
  match BinaryFormat.double.decode x.toBits.toNat with
  | .infinite false => "inf"
  | .infinite true => "-inf"
  | .nan => "NaN"
  | .finite negative significand exponent _ =>
    (if negative then "-" else "") ++ pointed (hundredths significand exponent)

end Optline.Decimal
