import CatalogViews.Catalog.Constraint

/-!
# View errors

The causes for which a metadata view fails, and the wording of each.
-/

namespace CatalogViews

/-- Why a view failed. -/
inductive ViewError where
  /-- A required argument was not given. -/
  | missingArgument (name : String)
  /-- A foreign key has an action for which there is no rule code. -/
  | unknownAction (action : ReferentialAction)
  /-- A pattern ends after an escape character that escapes nothing. -/
  | invalidPattern (pattern : String)
  | sessionClosed
  /-- A statement failed. -/
  | query (message : String)
deriving Repr, DecidableEq

def ViewError.message : ViewError → String
  | missingArgument name => s!"Invalid value \"null\" for parameter \"{name}\""
  | unknownAction action => "Internal error: unknown referential action " ++ action.text
  | invalidPattern pattern => s!"Invalid LIKE pattern '{pattern}': dangling escape character"
  | sessionClosed => "Database session is closed"
  | query message => s!"Query failed: {message}"

end CatalogViews
