/-!
# Catalog errors

The causes for which a catalog operation fails, and the wording of each.
-/

namespace CatalogViews

inductive CatalogError where
  /-- The schema already has a table or synonym of that name. -/
  | tableExists (name : String)
  | tableNotFound (name : String)
  | columnNotFound (column table : String)
  | schemaExists (name : String)
  | schemaNotFound (name : String)
  | schemaNotEmpty (name : String)
  | synonymNotFound (name : String)
  | constraintExists (name : String)
  | constraintNotFound (name : String)
  /-- The two column lists of a foreign key differ in length. -/
  | columnCountMismatch (constraint : String) (columns parentColumns : Nat)
  /-- No key of the parent table is over the referenced columns. -/
  | referencedKeyNotFound (constraint table : String)
  | indexExists (index table : String)
  | indexNotFound (index table : String)
deriving Repr, DecidableEq

def CatalogError.message : CatalogError → String
  | tableExists name => s!"Table '{name}' already exists"
  | tableNotFound name => s!"Table '{name}' not found"
  | columnNotFound column table => s!"Column '{column}' not found in table '{table}'"
  | schemaExists name => s!"Schema '{name}' already exists"
  | schemaNotFound name => s!"Schema '{name}' not found"
  | schemaNotEmpty name => s!"Schema '{name}' is not empty"
  | synonymNotFound name => s!"Synonym '{name}' not found"
  | constraintExists name => s!"Constraint '{name}' already exists"
  | constraintNotFound name => s!"Constraint '{name}' not found"
  | columnCountMismatch constraint columns parentColumns =>
    s!"Foreign key '{constraint}' has {columns} column(s) but references {parentColumns} column(s)"
  | referencedKeyNotFound constraint table =>
    s!"Foreign key '{constraint}' references no primary or unique key of table '{table}'"
  | indexExists index table => s!"Index '{index}' on table '{table}' already exists"
  | indexNotFound index table => s!"Index '{index}' on table '{table}' not found"

end CatalogViews
