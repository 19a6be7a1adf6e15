import CatalogViews.Text.Order
import CatalogViews.Value.Basic

/-!
# The orders of values

`Value.compare?` is the comparison of two values of one kind: null and numbers that are not numbers
have no place in it, and values of two kinds are not compared. `Value.totalCompare` extends it to
all values, for sorting: null comes first, integers of all widths compare by value, a number that is
not a number goes by its bits, and what is left goes by kind.
-/

namespace CatalogViews.Value

/-- The comparison of two values of one kind. -/
def compare? : Value → Value → Option Ordering
  | integer a, integer b => some (compare a.toInt b.toInt)
  | smallint a, smallint b => some (compare a.toInt b.toInt)
  | bigint a, bigint b => some (compare a.toInt b.toInt)
  | unsigned a, unsigned b => some (compare a.toNat b.toNat)
  | numeric a, numeric b => a.compare? b
  | real a, real b => a.compare? b
  | double a, double b => a.compare? b
  | character a, character b => some (Text.compareText a b)
  | varchar a, varchar b => some (Text.compareText a b)
  | boolean a, boolean b => some (compare a.toNat b.toNat)
  | _, _ => none

/-- Equality as a comparison sees it: the two zeros are equal, a number that is not a number differs
from itself, and null equals null. -/
def same (a b : Value) : Bool :=
  match a, b with
  | null, null => true
  | _, _ => a.compare? b == some .eq

/-- The place of the kind of a value among the kinds. -/
def kindRank : Value → Nat
  | null => 0
  | integer _ => 1
  | smallint _ => 2
  | bigint _ => 3
  | unsigned _ => 4
  | numeric _ => 5
  | real _ => 6
  | double _ => 7
  | character _ => 8
  | varchar _ => 9
  | boolean _ => 10

/-- The comparison of two values that are neither null nor compared within their kind. -/
def fallbackCompare (a b : Value) : Ordering :=
  match a.int64?, b.int64? with
  | some m, some n => compare m.toInt n.toInt
  | _, _ =>
    match a, b with
    | numeric x, numeric y => x.totalCompare y
    | real x, real y => x.totalCompare y
    | double x, double y => x.totalCompare y
    | _, _ => compare a.kindRank b.kindRank

def totalCompare (a b : Value) : Ordering :=
  match a, b with
  | null, null => .eq
  | null, _ => .lt
  | _, null => .gt
  | a, b => (a.compare? b).getD (a.fallbackCompare b)

end CatalogViews.Value
