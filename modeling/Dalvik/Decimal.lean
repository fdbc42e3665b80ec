/-!
# Binary floating-point numbers as decimal text

A finite binary number is a mantissa times a power of two, and every real number near it rounds to
it. Its text is the point of the coarsest decimal grid that still rounds to it: the fewest digits
that read back. Of two points of that grid the nearer is taken, and of two equally near ones the
upper. The text is positional, without an exponent, and has a point only if there are places after
it.
-/

namespace Dalvik

/-- A binary interchange format: how many bits hold the fraction and how many the exponent. -/
structure BinaryFormat where
  fractionBits : Nat
  exponentBits : Nat

namespace BinaryFormat

def single : BinaryFormat := ⟨23, 8⟩

def double : BinaryFormat := ⟨52, 11⟩

/-- The exponent of the smallest numbers: `1 - bias - fractionBits`. -/
def leastExponent (format : BinaryFormat) : Int :=
  2 - Nat.pow 2 (format.exponentBits - 1) - format.fractionBits

end BinaryFormat

/-- What a bit pattern stands for. A finite number is `mantissa * 2 ^ exponent`; `tight` says that
the gap below it is half the gap above it. -/
inductive BinaryNumber where
  | notANumber
  | infinite (negative : Bool)
  | finite (negative : Bool) (mantissa : Nat) (exponent : Int) (tight : Bool)

def BinaryFormat.decode (format : BinaryFormat) (bits : Nat) : BinaryNumber :=
  let fraction := bits % Nat.pow 2 format.fractionBits
  let power := bits / Nat.pow 2 format.fractionBits % Nat.pow 2 format.exponentBits
  let negative := bits / Nat.pow 2 (format.fractionBits + format.exponentBits) % 2 == 1
  if power == Nat.pow 2 format.exponentBits - 1 then
    if fraction == 0 then .infinite negative else .notANumber
  else if power == 0 then
    .finite negative fraction format.leastExponent false
  else
    .finite negative (Nat.pow 2 format.fractionBits + fraction)
      (format.leastExponent + (power - 1 : Nat))
      (fraction == 0 && power != 1)

namespace Decimal

/-- The real numbers that round to one binary number, in units of `2 ^ exponent`: those between
`low` and `high`, which are themselves included if `closed`. -/
structure Interval where
  low : Nat
  value : Nat
  high : Nat
  exponent : Int
  closed : Bool

/-- The numbers that round to `mantissa * 2 ^ exponent`: up to half a gap away on either side, ties
going to the even mantissa. -/
def Interval.around (mantissa : Nat) (exponent : Int) (tight : Bool) : Interval where
  low := if tight then 4 * mantissa - 1 else 4 * mantissa - 2
  value := 4 * mantissa
  high := 4 * mantissa + 2
  exponent := exponent - 2
  closed := mantissa % 2 == 0

/-- The units of `2 ^ interval.exponent` in a step of `10 ^ place` are `step / scale`, both natural
numbers. -/
def Interval.scale (interval : Interval) (place : Int) : Nat :=
  Nat.pow 2 interval.exponent.toNat * Nat.pow 10 (-place).toNat

/-- See `Interval.scale`. -/
def Interval.step (interval : Interval) (place : Int) : Nat :=
  Nat.pow 2 (-interval.exponent).toNat * Nat.pow 10 place.toNat

/-- The grid point `digits * 10 ^ place` lies in the interval. -/
def Interval.holds (interval : Interval) (place : Int) (digits : Nat) : Bool :=
  let point := digits * interval.step place
  let low := interval.low * interval.scale place
  let high := interval.high * interval.scale place
  if interval.closed then low ≤ point && point ≤ high else low < point && point < high

/-- The point of the grid of `10 ^ place` that is to stand for the number, if one lies in the
interval: one of the two neighbours of the value on that grid. -/
def Interval.nearest? (interval : Interval) (place : Int) : Option Nat :=
  let value := interval.value * interval.scale place
  let step := interval.step place
  let below := value / step
  match interval.holds place below, interval.holds place (below + 1) with
  | true, true => if 2 * (value % step) < step then some below else some (below + 1)
  | true, false => some below
  | false, true => some (below + 1)
  | false, false => none

/-- The first of the grids `place`, `place - 1`, … that has a point in the interval, with that
point; at most `steps` grids are tried. -/
def Interval.coarsest (interval : Interval) : Nat → Int → Nat × Int
  | 0, place => (interval.value * interval.scale place / interval.step place, place)
  | steps + 1, place =>
    match interval.nearest? place with
    | some digits => (digits, place)
    | none => interval.coarsest steps (place - 1)

/-- A place above which no grid point but zero can be as small as `2 ^ bits`. -/
def topPlace (bits : Int) : Int :=
  if 0 ≤ bits then bits / 3 + 1 else -(-bits / 4) + 1

/-- The digits and the place of the shortest decimal that rounds to `mantissa * 2 ^ exponent`, for a
positive mantissa. The number itself lies on the grid of place `min exponent 0`, so the search ends
there at the latest. -/
def shortest (mantissa : Nat) (exponent : Int) (tight : Bool) : Nat × Int :=
  let top := topPlace (exponent + Nat.log2 mantissa + 2)
  (Interval.around mantissa exponent tight).coarsest (top - min exponent 0).toNat top

/-- The text of `digits * 10 ^ place`, positional. -/
def positional (digits : Nat) (place : Int) : String :=
  let text := Nat.toDigits 10 digits
  if 0 ≤ place then
    String.ofList (text ++ List.replicate place.toNat '0')
  else
    let places := (-place).toNat
    let text := List.replicate (places + 1 - text.length) '0' ++ text
    String.ofList (text.take (text.length - places) ++ '.' :: text.drop (text.length - places))

end Decimal

def BinaryNumber.text : BinaryNumber → String
  | notANumber => "NaN"
  | infinite negative => if negative then "-inf" else "inf"
  | finite negative mantissa exponent tight =>
    let magnitude :=
      if mantissa == 0 then "0"
      else
        let (digits, place) := Decimal.shortest mantissa exponent tight
        Decimal.positional digits place
    if negative then "-" ++ magnitude else magnitude

/-- The text of the number that a bit pattern of the format stands for. -/
def BinaryFormat.text (format : BinaryFormat) (bits : Nat) : String :=
  (format.decode bits).text

end Dalvik
