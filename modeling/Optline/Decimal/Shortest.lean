import Optline.Decimal.Binary

/-!
# The shortest decimal of a binary number

A binary number is written with the fewest decimal digits that read back to it.  The numbers that
read back are those of an interval around it, whose ends lie halfway to its neighbours and belong
to it when the significand is even.  For one digit, two digits and so on, only the two points of
the decimal grid next to the number can lie in the interval first; the first grid with such a point
wins, of two points the nearer, and of two equally near ones the upper.

* `Interval` — a number and the interval that reads back to it, over one common denominator.
* `Interval.pick?` — the point of one decimal grid that stands for the number.
* `shortest` — digits and exponent of the shortest decimal.
* `positional` — a decimal with all its digits written out.
* `text64`, `text32` — the text of a number.
-/

namespace Optline.Decimal

/-! ## The interval -/

/-- A positive number and the ends of the interval that reads back to it, in units of one quarter
of `2 ^ exponent`. -/
structure Interval where
  /-- The lower end. -/
  low : Nat
  /-- The number. -/
  value : Nat
  /-- The upper end. -/
  high : Nat
  /-- Whether the ends belong to the interval. -/
  closed : Bool
  /-- The exponent of the unit. -/
  exponent : Int

/-- The interval of the number `significand · 2 ^ exponent`. -/
def Interval.of (significand : Nat) (exponent : Int) (isPower : Bool) : Interval where
  low := 4 * significand - (if isPower then 1 else 2)
  value := 4 * significand
  high := 4 * significand + 2
  closed := significand % 2 == 0
  exponent := exponent - 2

/-- The point of the grid of the multiples of `10 ^ k` that stands for the number, as a multiple,
if one of the number's two neighbours on it lies in the interval. -/
def Interval.pick? (i : Interval) (k : Int) : Option Nat :=
  -- one unit of the interval is `unit / grid` steps of the grid
  let (unit, den) := scaleDown 2 1 1 (-i.exponent)
  let (unit, grid) := scaleDown 10 unit den k
  let below := i.value * unit / grid
  let isInside (a : Nat) : Bool :=
    if i.closed then i.low * unit ≤ a * grid && a * grid ≤ i.high * unit
    else i.low * unit < a * grid && a * grid < i.high * unit
  if below * grid = i.value * unit then some below
  else
    let above := below + 1
    match isInside below, isInside above with
    | true, true =>
      if i.value * unit - below * grid < above * grid - i.value * unit then some below
      else some above
    | true, false => some below
    | false, true => some above
    | false, false => none

/-- The largest `k` with `10 ^ k ≤ value`. -/
def Interval.floorLog10 (i : Interval) : Int :=
  let guess := (floorLog2 i.value 1 + i.exponent) * 30103 / 100000
  let reaches (k : Int) : Bool :=
    let (unit, den) := scaleDown 2 1 1 (-i.exponent)
    let (unit, grid) := scaleDown 10 unit den k
    grid ≤ i.value * unit
  if reaches (guess + 1) then guess + 1 else if reaches guess then guess else guess - 1

/-! ## Digits -/

/-- A decimal `digits · 10 ^ exponent`. -/
structure Digits where
  /-- The digits, read as a number. -/
  digits : Nat
  /-- The exponent of the last digit. -/
  exponent : Int
  deriving DecidableEq, Repr

/-- The first point found on the grids `10 ^ (lead - n)` for `n` from `used` on, trying at most
`fuel` of them. -/
def Interval.firstGrid (i : Interval) (lead : Int) (used : Nat) : Nat → Digits
  | 0 => ⟨0, 0⟩
  | fuel + 1 =>
    let k := lead - used
    match i.pick? k with
    | some a => ⟨a, k⟩
    | none => i.firstGrid lead (used + 1) fuel

/-- The shortest decimal that reads back to a positive number.  Seventeen digits tell any two
numbers of the formats in use apart, so the search ends by then. -/
def shortest (significand : Nat) (exponent : Int) (isPower : Bool) : Digits :=
  let i := Interval.of significand exponent isPower
  i.firstGrid i.floorLog10 0 18

/-! ## Text -/

/-- A decimal with all its digits written out: never an exponent, and a point only where digits
follow it. -/
def positional (d : Digits) : String :=
  let ds := (toString d.digits).toList
  if 0 ≤ d.exponent then String.ofList (ds ++ List.replicate d.exponent.toNat '0')
  else
    let places := (-d.exponent).toNat
    let padded := List.replicate (places + 1 - ds.length) '0' ++ ds
    let whole := padded.length - places
    let fraction := ((padded.drop whole).reverse.dropWhile (· == '0')).reverse
    if fraction.isEmpty then String.ofList (padded.take whole)
    else String.ofList (padded.take whole ++ '.' :: fraction)

/-- The text of a decoded number. -/
def textOf : Decoded → String
  | .infinite false => "inf"
  | .infinite true => "-inf"
  | .nan => "NaN"
  | .finite negative significand exponent isPower =>
    let sign := if negative then "-" else ""
    if significand = 0 then sign ++ "0"
    else sign ++ positional (shortest significand exponent isPower)

/-- The text of a number of 64 bits. -/
def text64 (x : Float) : String :=
  textOf (BinaryFormat.double.decode x.toBits.toNat)

/-- The text of a number of 32 bits. -/
def text32 (x : Float32) : String :=
  textOf (BinaryFormat.single.decode x.toBits.toNat)

end Optline.Decimal
