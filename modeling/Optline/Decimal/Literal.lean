import Optline.Decimal.Binary

/-!
# Reading numbers

The text of a floating-point number: an optional sign, then `inf`, `infinity` or `nan` in any mix
of cases, or digits with at most one point among them and at least one digit, and then perhaps an
exponent.  A text that is not of this form is no number; a number that is too large for its format
is infinite.

* `Literal` — what a text says.
* `Literal.read?` — the reading.
* `Literal.bits` — the nearest number of a format.
* `read64?`, `read32?` — text to number.
* `integer?` — an integer text to its value; `wordCount` — how many values a word has.
-/

namespace Optline.Decimal

/-! ## Literals -/

/-- The magnitude that a text gives. -/
inductive Magnitude where
  /-- `digits · 10 ^ exponent`. -/
  | finite (digits : Nat) (exponent : Int)
  | infinite
  | nan
  deriving DecidableEq, Repr

/-- What the text of a number says. -/
structure Literal where
  negative : Bool
  magnitude : Magnitude
  deriving DecidableEq, Repr

/-- The value of a run of decimal digits. -/
def digitsValue (ds : List Char) : Nat :=
  ds.foldl (fun n d => 10 * n + (d.toNat - '0'.toNat)) 0

/-- Takes an optional sign off a text; `true` stands for a minus. -/
def takeSign : List Char → Bool × List Char
  | '-' :: cs => (true, cs)
  | '+' :: cs => (false, cs)
  | cs => (false, cs)

/-- The exponent at the end of a number: nothing at all, or the letter, an optional sign and at
least one digit. -/
def exponent? : List Char → Option Int
  | [] => some 0
  | e :: cs =>
    if e = 'e' ∨ e = 'E' then
      let (negative, ds) := takeSign cs
      if ds ≠ [] ∧ ds.all Char.isDigit then
        some (if negative then -(digitsValue ds : Int) else digitsValue ds)
      else none
    else none

/-- The part of a text after its leading digits and, if there is one, a point and more digits. -/
def mantissa (cs : List Char) : List Char × List Char × List Char :=
  let whole := cs.takeWhile Char.isDigit
  match cs.dropWhile Char.isDigit with
  | '.' :: rest => (whole, rest.takeWhile Char.isDigit, rest.dropWhile Char.isDigit)
  | rest => (whole, [], rest)

/-- The finite magnitude that a text without sign gives. -/
def finite? (cs : List Char) : Option Magnitude :=
  let (whole, fraction, rest) := mantissa cs
  if whole ++ fraction = [] then none
  else (exponent? rest).map fun e =>
    .finite (digitsValue (whole ++ fraction)) (e - fraction.length)

/-- The magnitude that a text without sign gives. -/
def magnitude? (cs : List Char) : Option Magnitude :=
  let name := cs.map Char.toLower
  if name = "inf".toList ∨ name = "infinity".toList then some .infinite
  else if name = "nan".toList then some .nan
  else finite? cs

/-- What a text says, if it is the text of a number. -/
def Literal.read? (text : String) : Option Literal :=
  let (negative, cs) := takeSign text.toList
  (magnitude? cs).map fun m => ⟨negative, m⟩

/-! ## Numbers -/

/-- How far the leading digit of a decimal may be from the point before the number is certainly
infinite or zero in every format in use. -/
def magnitudeLimit : Int := 400

/-- The bits of the number nearest to a magnitude.  Far outside the range of the format the answer
is settled by the place of the leading digit alone, whatever the length of the exponent. -/
def Magnitude.bits (f : BinaryFormat) : Magnitude → Nat
  | .infinite => f.infinityBits
  | .nan => f.infinityBits + power 2 (f.precision - 2)
  | .finite digits exponent =>
    let lead : Int := (toString digits).length + exponent
    if digits = 0 then 0
    else if magnitudeLimit < lead then f.infinityBits
    else if lead < -magnitudeLimit then 0
    else
      let (num, den) := scaleDown 10 digits 1 (-exponent)
      f.nearest num den

/-- The bits of the number of a format that a text stands for. -/
def Literal.bits (f : BinaryFormat) (l : Literal) : Nat :=
  l.magnitude.bits f + (if l.negative then f.signBit else 0)

/-- The number of 64 bits that a text stands for. -/
def read64? (text : String) : Option Float :=
  (Literal.read? text).map fun l => Float.ofBits (.ofNat (l.bits .double))

/-- The number of 32 bits that a text stands for. -/
def read32? (text : String) : Option Float32 :=
  (Literal.read? text).map fun l => Float32.ofBits (.ofNat (l.bits .single))

/-! ## Integers -/

/-- How many values a word of 64 bits has. -/
def wordCount : Nat := 0x10000000000000000

/-- The value of an optional minus and digits. -/
def integer? (text : String) : Option Int :=
  match text.toList with
  | '-' :: ds => if ds ≠ [] ∧ ds.all Char.isDigit then some (-(digitsValue ds : Int)) else none
  | ds => if ds ≠ [] ∧ ds.all Char.isDigit then some (digitsValue ds) else none

end Optline.Decimal
