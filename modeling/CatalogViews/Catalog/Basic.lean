import CatalogViews.Catalog.Schema
import CatalogViews.Text.Blank

/-!
# The catalog

A catalog holds schemas, each under its declared name, and always the main schema among them. One
schema is the current one, in which names without a schema are looked up. A name of a schema means
the schema of exactly that name or, where case does not matter, one whose name is the same
identifier.

The changes of a catalog are edits. Those of a table run on the table as a part of the catalog.
-/

namespace CatalogViews

def defaultCatalogName : String := "VIBESQL"

def mainSchemaName : String := "PUBLIC"

structure Catalog where
  name : String
  schemas : Keyed Schema
  /-- The key of the current schema. -/
  currentSchema : String
  /-- The name of the collation of identifiers. -/
  collation : Option String
  caseMode : CaseMode
deriving DecidableEq

namespace Catalog

/-- The catalog of that name with an empty main schema. -/
def named (name : String) : Catalog :=
  { name
    schemas := Keyed.empty.insertNew mainSchemaName (Schema.empty mainSchemaName)
    currentSchema := mainSchemaName
    collation := none
    caseMode := .insensitive }

instance : Inhabited Catalog := ⟨named defaultCatalogName⟩

def sameIdentifier (catalog : Catalog) (a b : String) : Bool :=
  catalog.caseMode.same a b

def schemaKey? (catalog : Catalog) (name : String) : Option String :=
  if catalog.schemas.contains name then some name
  else match catalog.caseMode with
    | .sensitive => none
    | .insensitive =>
      catalog.schemas.keys.find? fun key => CaseMode.insensitive.same key name

def schema? (catalog : Catalog) (name : String) : Option Schema :=
  (catalog.schemaKey? name).bind catalog.schemas.find?

def mainSchema? (catalog : Catalog) : Option Schema :=
  catalog.schemas.find? mainSchemaName

def tableIn? (catalog : Catalog) (schema table : String) : Option Table :=
  (catalog.schema? schema).bind (·.table? catalog.caseMode table)

/-- A table name as a schema name and a name in that schema: the parts around the first point, or
the current schema where there is no point. -/
def qualify (catalog : Catalog) (name : String) : String × String :=
  (Text.cutText? '.' name).getD (catalog.currentSchema, name)

/-- The table of that name, which may name its schema before a point. -/
def table? (catalog : Catalog) (name : String) : Option Table :=
  catalog.tableIn? (catalog.qualify name).1 (catalog.qualify name).2

/-- The names of the tables of the current schema. -/
def listTables (catalog : Catalog) : List String :=
  match catalog.schemas.find? catalog.currentSchema with
  | some schema => schema.tables.values.map (·.name)
  | none => []

/-- The indexes of a table, none for a table that does not exist. -/
def indexesOf (catalog : Catalog) (schema table : String) : List Index :=
  match catalog.tableIn? schema table with
  | some table => table.indexes
  | none => []

def schemaFocus (name : String) : Focus Catalog Schema := fun catalog =>
  match catalog.schemaKey? name with
  | none => .error (.schemaNotFound name)
  | some key =>
    match catalog.schemas.find? key with
    | none => .error (.schemaNotFound key)
    | some schema => .ok (schema, fun schema' =>
        { catalog with schemas := catalog.schemas.replace key schema' })

/-- An edit of the schema of that name; the edit is told the case mode. -/
def onSchema {α : Type} (name : String) (edit : CaseMode → Edit Schema α) : Edit Catalog α :=
  fun catalog => Edit.within (schemaFocus name) (edit catalog.caseMode) catalog

def onTable {α : Type} (schema table : String) (edit : CaseMode → Edit Table α) : Edit Catalog α :=
  onSchema schema fun mode => Edit.within (Schema.tableFocus mode table) (edit mode)

def createSchema (name : String) : Edit Catalog Unit := fun catalog =>
  if (catalog.schema? name).isSome then .error (.schemaExists name) catalog
  else .ok () { catalog with schemas := catalog.schemas.insertNew name (Schema.empty name) }

/-- Removes a schema, which must be empty unless `cascade` is set. The main schema stays; the
current schema becomes the main one when it is removed. -/
def dropSchema (name : String) (cascade : Bool) : Edit Catalog Unit := fun catalog =>
  match catalog.schemaKey? name with
  | none => .error (.schemaNotFound name) catalog
  | some key =>
    if key = mainSchemaName then .error (.schemaNotEmpty key) catalog
    else match catalog.schemas.find? key with
      | none => .error (.schemaNotFound name) catalog
      | some schema =>
        if !cascade && !schema.isEmpty then .error (.schemaNotEmpty name) catalog
        else .ok () { catalog with
          schemas := catalog.schemas.erase key
          currentSchema :=
            if catalog.currentSchema = key then mainSchemaName else catalog.currentSchema }

def setCurrentSchema (name : String) : Edit Catalog Unit := fun catalog =>
  match catalog.schemaKey? name with
  | none => .error (.schemaNotFound name) catalog
  | some key => .ok () { catalog with currentSchema := key }

def createTableIn (schema : String) (table : Table) : Edit Catalog Unit :=
  onSchema schema (Schema.createTable · table)

def createTable (table : Table) : Edit Catalog Unit := fun catalog =>
  createTableIn catalog.currentSchema table catalog

/-- Removes a table, whose name may name its schema before a point. -/
def dropTable (name : String) : Edit Catalog Unit := fun catalog =>
  let (schema, table) := catalog.qualify name
  onSchema schema (fun mode => (do discard <| Schema.dropTable mode table)) catalog

/-- Adds a synonym to a schema. Its target must exist. -/
def createSynonym (schema : String) (synonym : Synonym) : Edit Catalog Unit := fun catalog =>
  if (catalog.tableIn? synonym.targetSchema synonym.targetTable).isNone then
    .error (.tableNotFound (synonym.targetSchema ++ "." ++ synonym.targetTable)) catalog
  else onSchema schema (Schema.createSynonym · synonym) catalog

def dropSynonym (schema name : String) : Edit Catalog Unit :=
  onSchema schema fun mode => do discard <| Schema.dropSynonym mode name

def setPrimaryKey (schema table : String) (key : Key) : Edit Catalog Unit :=
  onTable schema table (Table.addPrimaryKey · key)

def addUniqueKey (schema table : String) (key : Key) : Edit Catalog Unit :=
  onTable schema table (Table.addUniqueKey · key)

/-- A foreign key with its parent side resolved: the declared names of the parent and its columns,
and the key of the parent over these columns. The parent is looked up among the tables of its
schema, by default the given one. -/
def resolveForeignKey (catalog : Catalog) (schema : String) (fk : ForeignKey) :
    Except CatalogError ForeignKey :=
  if fk.columns.length ≠ fk.parentColumns.length then
    .error (.columnCountMismatch fk.name fk.columns.length fk.parentColumns.length)
  else match catalog.schema? (fk.parentSchema.getD schema) with
    | none => .error (.schemaNotFound (fk.parentSchema.getD schema))
    | some parentSchema =>
      match parentSchema.table? catalog.caseMode fk.parentTable with
      | none => .error (.tableNotFound fk.parentTable)
      | some parent =>
        match parent.spellings catalog.caseMode fk.parentColumns with
        | .error error => .error error
        | .ok parentColumns =>
          match parent.keyOver? parentColumns with
          | none => .error (.referencedKeyNotFound fk.name parent.name)
          | some key => .ok { fk with
              parentSchema := some parentSchema.name
              parentTable := parent.name
              parentColumns
              referencedKey := some key }

def addForeignKey (schema table : String) (fk : ForeignKey) : Edit Catalog Unit := fun catalog =>
  match catalog.resolveForeignKey schema fk with
  | .error error => .error error catalog
  | .ok fk => onTable schema table (Table.addForeignKey · fk) catalog

def dropConstraint (schema table name : String) : Edit Catalog Unit :=
  onTable schema table fun _ => Table.dropConstraint name

/-- Adds an index to the table that it names. -/
def addIndex (schema : String) (index : Index) : Edit Catalog Unit :=
  onTable schema index.table (Table.addIndex · index)

def dropIndex (schema table name : String) : Edit Catalog Index :=
  onTable schema table fun _ => Table.dropIndex table name

/-- The catalog with its schemas, and the tables and synonyms of each, in the order of their
names. -/
def inNameOrder (catalog : Catalog) : Catalog :=
  { catalog with
    schemas := (catalog.schemas.mapValues (·.inNameOrder)).sortBy fun a b =>
      (Text.compareText a.2.name b.2.name).isLE }

end Catalog

end CatalogViews
