import CatalogViews.Catalog.Basic

/-!
# Operations on a catalog

The changes of a catalog as values, so that histories are lists. `Operation.perform` is the edit
that an operation stands for, and `Catalog.after` is the catalog that a history leaves behind: a
failed operation does not end the history.
-/

namespace CatalogViews

/-- A change of a catalog. -/
inductive Operation where
  | createSchema (name : String)
  | dropSchema (name : String) (cascade : Bool)
  | setCurrentSchema (name : String)
  | createTable (table : Table)
  | createTableIn (schema : String) (table : Table)
  | dropTable (name : String)
  | createSynonym (schema : String) (synonym : Synonym)
  | dropSynonym (schema name : String)
  | setPrimaryKey (schema table : String) (key : Key)
  | addUniqueKey (schema table : String) (key : Key)
  | addForeignKey (schema table : String) (fk : ForeignKey)
  | dropConstraint (schema table name : String)
  | addIndex (schema : String) (index : Index)
  | dropIndex (schema table name : String)
  | setCollation (name : Option String)
  | setCaseMode (mode : CaseMode)
deriving DecidableEq

namespace Operation

def perform : Operation → Edit Catalog Unit
  | createSchema name => Catalog.createSchema name
  | dropSchema name cascade => Catalog.dropSchema name cascade
  | setCurrentSchema name => Catalog.setCurrentSchema name
  | createTable table => Catalog.createTable table
  | createTableIn schema table => Catalog.createTableIn schema table
  | dropTable name => Catalog.dropTable name
  | createSynonym schema synonym => Catalog.createSynonym schema synonym
  | dropSynonym schema name => Catalog.dropSynonym schema name
  | setPrimaryKey schema table key => Catalog.setPrimaryKey schema table key
  | addUniqueKey schema table key => Catalog.addUniqueKey schema table key
  | addForeignKey schema table fk => Catalog.addForeignKey schema table fk
  | dropConstraint schema table name => Catalog.dropConstraint schema table name
  | addIndex schema index => Catalog.addIndex schema index
  | dropIndex schema table name => do discard <| Catalog.dropIndex schema table name
  | setCollation collation => modify ({ · with collation })
  | setCaseMode caseMode => modify ({ · with caseMode })

/-- The catalog that an operation leaves behind, whether it succeeds or fails. -/
def applyTo (operation : Operation) (catalog : Catalog) : Catalog :=
  match operation.perform catalog with
  | .ok _ catalog' => catalog'
  | .error _ catalog' => catalog'

end Operation

/-- The catalog that a history of operations leaves behind. -/
def Catalog.after (catalog : Catalog) (history : List Operation) : Catalog :=
  history.foldl (fun catalog operation => operation.applyTo catalog) catalog

end CatalogViews
