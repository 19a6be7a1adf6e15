import CatalogViews.Metadata.Basic

/-!
# Foreign keys

The three views on foreign keys: those that a table declares, those of any table that reference a
table, and those of one table that reference another. Each foreign key gives one row per pair of
columns. An action without a rule code is an error, even when the foreign key has no columns.
-/

namespace CatalogViews

/-- The rule code under which an action is reported. -/
def ReferentialAction.code : ReferentialAction → Except ViewError Int16
  | cascade => .ok 0
  | restrict => .ok 1
  | setNull => .ok 2
  | setDefault => .ok 4
  | noAction => .error (.unknownAction noAction)

namespace Metadata

def foreignKeysColumns : List ResultColumn :=
  [textColumn "PKTABLE_CAT", textColumn "PKTABLE_SCHEM", textColumn "PKTABLE_NAME",
    textColumn "PKCOLUMN_NAME", textColumn "FKTABLE_CAT", textColumn "FKTABLE_SCHEM",
    textColumn "FKTABLE_NAME", textColumn "FKCOLUMN_NAME", smallintColumn "KEY_SEQ",
    smallintColumn "UPDATE_RULE", smallintColumn "DELETE_RULE", textColumn "FK_NAME",
    textColumn "PK_NAME", smallintColumn "DEFERRABILITY"]

/-- The positions by which `importedKeys` is sorted: the parent table and the place in the key. -/
def importedKeysOrder : List Nat := [0, 1, 2, 8]

/-- The positions by which the other two views are sorted: the child table and the place in the
key. -/
def exportedKeysOrder : List Nat := [4, 5, 6, 8]

/-- The code of a constraint that cannot be deferred. -/
def notDeferrable : Int16 := 7

/-- The table that a foreign key of a table of the given schema references, if it exists. -/
def parentOf? (m : Metadata) (owner : Schema) (fk : ForeignKey) : Option Located :=
  m.catalog.findTableIn? (fk.parentSchema.getD owner.name) fk.parentTable

/-- The rows of a foreign key between two tables. -/
def foreignKeyRows (m : Metadata) (parent child : Located) (fk : ForeignKey) :
    Except ViewError (List Row) := do
  let updateRule ← fk.onUpdate.code
  let deleteRule ← fk.onDelete.code
  return fk.columnPairs.zipIdx.map fun ((childColumn, parentColumn), index) =>
    [m.catalogCell, .varchar parent.schema.name, .varchar parent.table.name,
      .varchar parentColumn, m.catalogCell, .varchar child.schema.name,
      .varchar child.table.name, .varchar childColumn, ordinalCell index, .smallint updateRule,
      .smallint deleteRule, .varchar fk.name, .ofText? fk.referencedKey, .smallint notDeferrable]

/-- A foreign key with the two tables that it joins. -/
structure Reference where
  parent : Located
  child : Located
  fk : ForeignKey

/-- The references that a table declares, as far as their parents exist. -/
def referencesOf (m : Metadata) (child : Located) : List Reference :=
  child.table.foreignKeys.filterMap fun fk =>
    (m.parentOf? child.schema fk).map fun parent => ⟨parent, child, fk⟩

/-- The tables of all schemas without the hidden ones. -/
def visibleTables (m : Metadata) : List Located :=
  m.catalog.schemas.values.flatMap fun schema =>
    (schema.tables.entries.filter (!·.2.hidden)).map fun (key, table) => ⟨schema, key, table⟩

/-- The rows of some references, sorted. -/
def referenceTable (m : Metadata) (references : List Reference) (order : List Nat) :
    Except ViewError ResultTable := do
  let rows ← references.mapM fun r => m.foreignKeyRows r.parent r.child r.fk
  return (ResultTable.mk foreignKeysColumns rows.flatten).sortRows order m.collation

/-- The foreign keys that a table declares. -/
def importedKeys (m : Metadata) (catalog schema table : Option String) :
    Except ViewError ResultTable := do
  let table ← required "table" table
  m.checkOpen
  if !m.catalog.isSelectedBy catalog then return .empty foreignKeysColumns
  m.referenceTable ((m.findTables schema table).flatMap m.referencesOf) importedKeysOrder

/-- The foreign keys of any table that reference a table. -/
def exportedKeys (m : Metadata) (catalog schema table : Option String) :
    Except ViewError ResultTable := do
  let table ← required "table" table
  m.checkOpen
  if !m.catalog.isSelectedBy catalog then return .empty foreignKeysColumns
  let references := (m.findTables schema table).flatMap fun parent =>
    ((m.visibleTables.flatMap m.referencesOf).filter (·.parent.sameAs parent)).map
      ({ · with parent })
  m.referenceTable references exportedKeysOrder

/-- Whether a schema argument selects a schema: it is absent, or empty and the schema is the main
one, or it names the schema. -/
def selectsSchema (m : Metadata) (argument : Option String) (schema : Schema) : Bool :=
  match argument with
  | none => true
  | some name =>
    if name.isEmpty then schema.name == mainSchemaName
    else m.catalog.sameIdentifier name schema.name

/-- The foreign keys of the foreign table that reference the primary table. The primary table is
named by its declared name, not through a synonym. -/
def crossReference (m : Metadata)
    (primaryCatalog primarySchema primaryTable foreignCatalog foreignSchema foreignTable :
      Option String) : Except ViewError ResultTable := do
  let primaryTable ← required "primaryTable" primaryTable
  let foreignTable ← required "foreignTable" foreignTable
  m.checkOpen
  if !m.catalog.isSelectedBy primaryCatalog || !m.catalog.isSelectedBy foreignCatalog then
    return .empty foreignKeysColumns
  let references := ((m.findTables foreignSchema foreignTable).flatMap m.referencesOf).filter
    fun r => m.catalog.sameIdentifier r.parent.table.name primaryTable &&
      m.selectsSchema primarySchema r.parent.schema
  m.referenceTable references exportedKeysOrder

end Metadata

end CatalogViews
