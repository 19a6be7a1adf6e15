/-!
# Binary floating-point numbers

A number of a binary interchange format is kept as its bits. Both orders that the library needs are
comparisons of integers read off the bits: the numeric comparison, in which a number that is not a
number has no place and the two zeros are equal, and the total order of all bit patterns.
-/

namespace CatalogViews.Number

/-- The field widths of a binary interchange format. -/
structure FloatFormat where
  exponentBits : Nat
  fractionBits : Nat
deriving Repr, DecidableEq

namespace FloatFormat

/-- The format with 32 bits. -/
def single : FloatFormat := ⟨8, 23⟩

/-- The format with 64 bits. -/
def double : FloatFormat := ⟨11, 52⟩

/-- All bits of a number: the sign, the exponent and the fraction. -/
def width (format : FloatFormat) : Nat :=
  1 + format.exponentBits + format.fractionBits

/-- The bits of infinity without its sign. -/
def infinity (format : FloatFormat) : Nat :=
  (Nat.pow 2 format.exponentBits - 1) * Nat.pow 2 format.fractionBits

/-- The exponent of the last place of the smallest numbers. -/
def leastExponent (format : FloatFormat) : Int :=
  2 - (Nat.pow 2 (format.exponentBits - 1) : Nat) - format.fractionBits

end FloatFormat

/-- A number of a binary interchange format, given by its bits. -/
structure BinaryFloat (format : FloatFormat) where
  bits : BitVec format.width
deriving Repr, DecidableEq

namespace BinaryFloat

variable {format : FloatFormat}

/-- Whether the sign bit is set. -/
def isNegative (x : BinaryFloat format) : Bool :=
  Nat.pow 2 (format.width - 1) ≤ x.bits.toNat

/-- The bits without the sign, as a number. -/
def magnitude (x : BinaryFloat format) : Nat :=
  x.bits.toNat % Nat.pow 2 (format.width - 1)

/-- Whether the bits stand for no number. -/
def isNaN (x : BinaryFloat format) : Bool :=
  format.infinity < x.magnitude

/-- Whether the bits stand for one of the two infinities. -/
def isInfinite (x : BinaryFloat format) : Bool :=
  x.magnitude == format.infinity

/-- The number with the given sign and the given bits after it. -/
def ofMagnitude (negative : Bool) (magnitude : Nat) : BinaryFloat format :=
  ⟨BitVec.ofNat _ (magnitude + if negative then Nat.pow 2 (format.width - 1) else 0)⟩

/-- The place of a number in the numeric order; the two zeros share it. -/
def rank (x : BinaryFloat format) : Int :=
  if x.isNegative then -(x.magnitude : Int) else x.magnitude

/-- The numeric comparison. It has no answer when one side is not a number. -/
def compare? (x y : BinaryFloat format) : Option Ordering :=
  if x.isNaN || y.isNaN then none else some (compare x.rank y.rank)

/-- The place of a bit pattern in the total order, which puts the negative patterns first, the
greatest magnitude before all others, and the negative zero right before the positive one. -/
def totalRank (x : BinaryFloat format) : Int :=
  if x.isNegative then -(x.magnitude : Int) - 1 else x.magnitude

/-- The total order of all bit patterns. -/
def totalCompare (x y : BinaryFloat format) : Ordering :=
  compare x.totalRank y.totalRank

/-- The magnitude of a finite number as `(m, q)` for `m * 2 ^ q`. -/
def significand (x : BinaryFloat format) : Nat × Int :=
  let exponent := x.magnitude / Nat.pow 2 format.fractionBits
  let fraction := x.magnitude % Nat.pow 2 format.fractionBits
  if exponent = 0 then (fraction, format.leastExponent)
  else (fraction + Nat.pow 2 format.fractionBits, format.leastExponent + exponent - 1)

end BinaryFloat

end CatalogViews.Number
