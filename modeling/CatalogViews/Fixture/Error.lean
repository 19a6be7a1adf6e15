import CatalogViews.Catalog.Error

/-!
# Fixture errors

The causes for which a fixture does not give a catalog, and the wording of each.
-/

namespace CatalogViews

/-- Why a fixture does not give a catalog. -/
inductive FixtureError where
  /-- The document is no fixture. -/
  | malformed
  | unknownType (source : String)
  | unknownTableKind (source : String)
  | unknownAction (source : String)
  | catalog (error : CatalogError)
deriving Repr, DecidableEq

def FixtureError.message : FixtureError → String
  | malformed => "Fixture parse error"
  | unknownType source => s!"Unknown column type '{source}'"
  | unknownTableKind source => s!"Unknown table kind '{source}'"
  | unknownAction source => s!"Unknown referential action '{source}'"
  | catalog error => "Catalog error: " ++ error.message

end CatalogViews
