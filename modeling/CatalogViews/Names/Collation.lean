import CatalogViews.Text.Blank
import CatalogViews.Text.Order
import CatalogViews.Text.Uppercase

/-!
# Collations

The order in which identifiers are listed. The binary collation is the order of code points; the
case-insensitive one orders by uppercase forms and breaks ties by code points, so that under both
two different identifiers are never equal.
-/

namespace CatalogViews

/-- An order of identifiers. -/
inductive Collation where
  | binary
  | caseInsensitive
deriving Repr, DecidableEq

namespace Collation

/-- The collation of a name as a catalog stores it. An unknown name, like none, is binary. -/
def ofName : Option String → Collation
  | none => binary
  | some name =>
    if Text.upper (Text.trim name) ∈ ["NOCASE", "CI", "CASE_INSENSITIVE", "IGNORECASE"] then
      caseInsensitive
    else binary

/-- The comparison of two identifiers. -/
def compare : Collation → String → String → Ordering
  | binary, a, b => Text.compareText a b
  | caseInsensitive, a, b =>
    (Text.compareChars (Text.upperChars a.toList) (Text.upperChars b.toList)).then
      (Text.compareText a b)

/-- Whether the first identifier may stand before the second. -/
def le (collation : Collation) (a b : String) : Bool :=
  (collation.compare a b).isLE

def sort (collation : Collation) (names : List String) : List String :=
  names.mergeSort collation.le

end Collation

end CatalogViews
