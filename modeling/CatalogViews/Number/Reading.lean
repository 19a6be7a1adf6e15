import CatalogViews.Number.BinaryFloat

/-!
# Reading numbers

Decimal texts become numbers of a binary format by exact rational arithmetic: the text names a
rational, the rational is divided by the last place of the format, and the quotient is rounded to
the nearest integer, a half going to the even neighbour. Also here is the reader of natural numbers
that the type arguments use.
-/

namespace CatalogViews.Number

/-- The value of a list of decimal digits; `none` for an empty list or another character. -/
def natOfDigits? (text : List Char) : Option Nat :=
  if text.isEmpty || text.any (!·.isDigit) then none
  else some (text.foldl (fun n c => 10 * n + (c.toNat - '0'.toNat)) 0)

/-- A natural number below `2 ^ 64`, written with decimal digits after an optional plus sign. -/
def word64? (text : List Char) : Option UInt64 := do
  let digits := match text with
    | '+' :: rest => rest
    | _ => text
  let n ← natOfDigits? digits
  if n < UInt64.size then some (UInt64.ofNat n) else none

/-- The integer nearest to `num / den`, a half going to the even neighbour. -/
def roundQuotient (num den : Nat) : Nat :=
  let quotient := num / den
  let twice := 2 * (num % den)
  if twice < den then quotient
  else if den < twice then quotient + 1
  else quotient + quotient % 2

namespace BinaryFloat

variable {format : FloatFormat}

/-- The number nearest to `num / den`. The bits of a finite number are its exponent field above its
fraction, so a carry out of the fraction moves on into the exponent by itself, and past the greatest
number lies infinity. -/
def ofQuotient (negative : Bool) (num den : Nat) : BinaryFloat format :=
  if num = 0 then ofMagnitude negative 0
  else
    let log : Int := (Nat.log2 num : Int) - Nat.log2 den
    let log := if num * Nat.pow 2 (-log).toNat < den * Nat.pow 2 log.toNat then log - 1 else log
    let place := max (log - format.fractionBits) format.leastExponent
    let m := roundQuotient (num * Nat.pow 2 (-place).toNat) (den * Nat.pow 2 place.toNat)
    let bits := (place - format.leastExponent).toNat * Nat.pow 2 format.fractionBits + m
    ofMagnitude negative (min bits format.infinity)

/-- The number nearest to `digits * 10 ^ exponent`. An exponent far outside the range of the format
is answered without computing the power. -/
def ofDecimal (negative : Bool) (digits : Nat) (exponent : Int) : BinaryFloat format :=
  let size := exponent + (Nat.toDigits 10 digits).length
  if digits = 0 ∨ size < -400 then ofMagnitude negative 0
  else if 400 < size then ofMagnitude negative format.infinity
  else ofQuotient negative (digits * Nat.pow 10 exponent.toNat) (Nat.pow 10 (-exponent).toNat)

/-- The pattern that stands for no number, with a sign, which only the total order sees. -/
def nan (negative : Bool) : BinaryFloat format :=
  ofMagnitude negative (format.infinity + Nat.pow 2 (format.fractionBits - 1))

/-- An exponent: digits after an optional sign. -/
def exponent? (text : List Char) : Option Int :=
  match text with
  | '-' :: digits => (natOfDigits? digits).map fun n => -(n : Int)
  | '+' :: digits => (natOfDigits? digits).map Int.ofNat
  | digits => (natOfDigits? digits).map Int.ofNat

/-- A decimal without its sign: digits with at most one point among them, then an exponent after
`e` or `E`. -/
def decimal? (text : List Char) : Option (Nat × Int) := do
  let mantissa := text.takeWhile fun c => c != 'e' && c != 'E'
  let exponent ← match text.drop mantissa.length with
    | [] => some 0
    | _ :: rest => exponent? rest
  let whole := mantissa.takeWhile (· != '.')
  let fraction := (mantissa.drop whole.length).drop 1
  let digits ← natOfDigits? (whole ++ fraction)
  some (digits, exponent - fraction.length)

/-- A number from its text: a decimal, `inf`, `infinity` or `nan` in any letter case, each after an
optional sign. -/
def ofText? (text : String) : Option (BinaryFloat format) :=
  let (negative, body) := match text.toList with
    | '-' :: rest => (true, rest)
    | '+' :: rest => (false, rest)
    | rest => (false, rest)
  match String.ofList (body.map Char.toLower) with
  | "inf" | "infinity" => some (ofMagnitude negative format.infinity)
  | "nan" => some (nan negative)
  | _ => (decimal? body).map fun (digits, exponent) => ofDecimal negative digits exponent

end BinaryFloat

end CatalogViews.Number
