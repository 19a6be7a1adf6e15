import CatalogViews.Number.BinaryFloat

/-!
# The shortest decimal that reads back

The decimal text of a number has the fewest digits whose value lies in the interval of reals that
round to that number. The interval holds its ends when the significand is even. From a grid so
coarse that the number lies below its first point, to ever finer ones, the two neighbours of the
number on the decimal grid are tried; the first grid with a neighbour in the interval decides, and
of two such neighbours the nearer, the upper one on a tie.
-/

namespace CatalogViews.Number

/-- The interval of reals around a number, in units of `1 / scale`. -/
structure RoundingInterval where
  low : Nat
  value : Nat
  high : Nat
  scale : Nat
  closed : Bool
deriving Repr, DecidableEq

namespace RoundingInterval

/-- The interval of a finite number other than zero. The gap below a power of two is half the gap
above it, unless the number is one of the smallest. -/
def ofFloat {format : FloatFormat} (x : BinaryFloat format) : RoundingInterval :=
  let (m, q) := x.significand
  let below := if m = Nat.pow 2 format.fractionBits ∧ format.leastExponent < q then 1 else 2
  let up := Nat.pow 2 (q - 2).toNat
  { low := (4 * m - below) * up
    value := 4 * m * up
    high := (4 * m + 2) * up
    scale := Nat.pow 2 (2 - q).toNat
    closed := m % 2 == 0 }

/-- Whether `digits * 10 ^ exponent` lies in the interval. -/
def holds (i : RoundingInterval) (digits : Nat) (exponent : Int) : Bool :=
  let point := digits * Nat.pow 10 exponent.toNat * i.scale
  let grid := Nat.pow 10 (-exponent).toNat
  if i.closed then i.low * grid ≤ point && point ≤ i.high * grid
  else i.low * grid < point && point < i.high * grid

/-- The neighbour of the value on the grid `10 ^ exponent` that lies in the interval, if there is
one; of two the nearer, and the upper one on a tie. -/
def neighbour? (i : RoundingInterval) (exponent : Int) : Option Nat :=
  let grid := Nat.pow 10 exponent.toNat * i.scale
  let value := i.value * Nat.pow 10 (-exponent).toNat
  let lower := value / grid
  let rest := value - lower * grid
  match i.holds lower exponent, i.holds (lower + 1) exponent with
  | true, true => some (if 2 * rest < grid then lower else lower + 1)
  | true, false => some lower
  | false, true => some (lower + 1)
  | false, false => none

/-- An exponent `e` for which the value is at most `10 ^ e`, and more than a hundredth of it. -/
def topExponent (i : RoundingInterval) : Int :=
  if i.scale ≤ i.value then (Nat.toDigits 10 (i.value / i.scale)).length
  else 1 - ((Nat.toDigits 10 (i.scale / i.value)).length : Int)

/-- The first of the grids `10 ^ exponent`, `10 ^ (exponent - 1)`, … with a neighbour of the value
in the interval, as `(neighbour, exponent)`; at most `fuel` grids are tried. -/
def search (i : RoundingInterval) : (fuel : Nat) → (exponent : Int) → Option (Nat × Int)
  | 0, _ => none
  | fuel + 1, exponent =>
    match i.neighbour? exponent with
    | some digits => some (digits, exponent)
    | none => i.search fuel (exponent - 1)

/-- The shortest decimal in the interval, as `(digits, exponent)`. Seventeen digits are always
enough for the formats in use, so twenty grids from the top one are more than are ever tried. -/
def shortest (i : RoundingInterval) : Nat × Int :=
  (i.search 20 i.topExponent).getD (0, 0)

end RoundingInterval

/-- The decimal digits of a natural number. -/
def digitChars (n : Nat) : List Char :=
  Nat.toDigits 10 n

/-- The text of `digits * 10 ^ exponent` with no exponent: zeros fill the places that the digits
leave open, and a whole number has no point. -/
def positional (digits : Nat) (exponent : Int) : List Char :=
  let text := digitChars digits
  let places := (-exponent).toNat
  if places = 0 then text ++ List.replicate exponent.toNat '0'
  else if places < text.length then
    text.take (text.length - places) ++ '.' :: text.drop (text.length - places)
  else ['0', '.'] ++ List.replicate (places - text.length) '0' ++ text

namespace BinaryFloat

variable {format : FloatFormat}

/-- The text of the magnitude of a finite number. -/
def magnitudeChars (x : BinaryFloat format) : List Char :=
  if x.magnitude = 0 then ['0']
  else
    let (digits, exponent) := (RoundingInterval.ofFloat x).shortest
    positional digits exponent

/-- The text of a number, with the given word for infinity. A zero keeps its sign. -/
def toTextWith (infinity : String) (x : BinaryFloat format) : String :=
  if x.isNaN then "NaN"
  else
    let sign := if x.isNegative then ['-'] else []
    let body := if x.isInfinite then infinity.toList else x.magnitudeChars
    String.ofList (sign ++ body)

/-- The text of a number: `inf` for infinity, the shortest decimal for a finite number. -/
def toText (x : BinaryFloat format) : String :=
  x.toTextWith "inf"

end BinaryFloat

end CatalogViews.Number
