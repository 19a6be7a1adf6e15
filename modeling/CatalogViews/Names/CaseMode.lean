import CatalogViews.Text.Uppercase

/-!
# Identifiers

How identifiers are looked up. A case mode gives every identifier a key, and two identifiers are the
same exactly when their keys are equal: the identifier itself when case matters, its uppercase form
when it does not.
-/

namespace CatalogViews

/-- Whether letter case matters in the lookup of identifiers. -/
inductive CaseMode where
  | insensitive
  | sensitive
deriving Repr, DecidableEq

namespace CaseMode

/-- The form of an identifier under which it is looked up. -/
def key : CaseMode → String → String
  | sensitive, name => name
  | insensitive, name => Text.upper name

/-- Whether two identifiers are the same. -/
def same (mode : CaseMode) (a b : String) : Bool :=
  mode.key a == mode.key b

theorem same_iff {mode : CaseMode} {a b : String} :
    mode.same a b = true ↔ mode.key a = mode.key b := by
  simp [same]

end CaseMode

end CatalogViews
