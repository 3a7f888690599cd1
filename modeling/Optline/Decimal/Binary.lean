/-!
# Binary floating-point formats

A finite number of a binary format is `m · 2 ^ q` with a bounded natural number `m`, and its bits
are laid out so that the order of the magnitudes is the order of the bit patterns.  Everything here
is exact arithmetic on natural numbers; the hardware's own type appears only where a caller turns
bits into a number.

* `BinaryFormat` — a format, with `double` and `single` as the two in use.
* `floorLog2` — the exponent of the leading bit of a positive fraction.
* `divToEven` — a quotient rounded to the nearest natural number, a half to the even one.
* `BinaryFormat.nearest` — the magnitude bits of the number nearest to a fraction.
* `BinaryFormat.decode` — what the bits of a number stand for.
-/

namespace Optline.Decimal

/-! ## Exact helpers -/

/-- A natural number to a power. -/
def power (base exponent : Nat) : Nat :=
  Nat.pow base exponent

/-- The quotient of two natural numbers rounded to the nearest one; a half goes to the even
neighbour. -/
def divToEven (num den : Nat) : Nat :=
  let q := num / den
  let r := num % den
  if 2 * r < den then q
  else if den < 2 * r then q + 1
  else q + q % 2

/-- The quotient `num / den` divided by `base ^ e`, again as a fraction. -/
def scaleDown (base num den : Nat) (e : Int) : Nat × Nat :=
  if 0 ≤ e then (num, den * power base e.toNat) else (num * power base (-e).toNat, den)

/-- The largest `k` with `2 ^ k ≤ num / den`, for positive `num` and `den`. -/
def floorLog2 (num den : Nat) : Int :=
  let k : Int := (num.log2 : Int) - (den.log2 : Int)
  let (n, d) := scaleDown 2 num den k
  if d ≤ n then k else k - 1

/-! ## Formats -/

/-- A binary floating-point format. -/
structure BinaryFormat where
  /-- Bits of the significand, the leading one counted. -/
  precision : Nat
  /-- Bits of the exponent field. -/
  exponentBits : Nat
  deriving DecidableEq, Repr

/-- The format of 64 bits. -/
def BinaryFormat.double : BinaryFormat := ⟨53, 11⟩

/-- The format of 32 bits. -/
def BinaryFormat.single : BinaryFormat := ⟨24, 8⟩

/-- A number as its bits describe it. -/
inductive Decoded where
  /-- Positive or negative infinity. -/
  | infinite (negative : Bool)
  /-- No number. -/
  | nan
  /-- The number `± significand · 2 ^ exponent`; `isPower` says that the significand is the least
  one of its exponent, below which the numbers lie twice as dense. -/
  | finite (negative : Bool) (significand : Nat) (exponent : Int) (isPower : Bool)
  deriving DecidableEq, Repr

namespace BinaryFormat

/-- The exponent of the last bit of the smallest numbers. -/
def minExponent (f : BinaryFormat) : Int :=
  3 - (power 2 (f.exponentBits - 1) : Int) - f.precision

/-- The bits of positive infinity. -/
def infinityBits (f : BinaryFormat) : Nat :=
  (power 2 f.exponentBits - 1) * power 2 (f.precision - 1)

/-- The bit that makes a number negative. -/
def signBit (f : BinaryFormat) : Nat :=
  power 2 (f.precision - 1 + f.exponentBits)

/-- The bits of the number nearest to the fraction `num / den`, a tie going to the even
significand.  A fraction beyond the largest number gives infinity.  Counting in units of the last
bit, the significand simply adds to the exponent field: a significand that is rounded up to the
next power of two carries into it. -/
def nearest (f : BinaryFormat) (num den : Nat) : Nat :=
  if num = 0 then 0
  else
    let q := max f.minExponent (floorLog2 num den - (f.precision - 1 : Nat))
    let (n, d) := scaleDown 2 num den q
    min f.infinityBits ((q - f.minExponent).toNat * power 2 (f.precision - 1) + divToEven n d)

/-- What the bits of a number stand for. -/
def decode (f : BinaryFormat) (bits : Nat) : Decoded :=
  let negative := bits / f.signBit % 2 == 1
  let magnitude := bits % f.signBit
  let hidden := power 2 (f.precision - 1)
  let field := magnitude / hidden
  let fraction := magnitude % hidden
  if field = power 2 f.exponentBits - 1 then
    if fraction = 0 then .infinite negative else .nan
  else if field = 0 then .finite negative fraction f.minExponent false
  else .finite negative (fraction + hidden) (f.minExponent + field - 1)
    (fraction == 0 && field != 1)

end BinaryFormat

end Optline.Decimal
