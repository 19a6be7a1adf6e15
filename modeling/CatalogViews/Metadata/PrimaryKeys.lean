import CatalogViews.Metadata.Columns

/-!
# Primary keys

The views on the primary key of a table: its columns by name with their places in the key, and its
columns in the order of the key as the best way to identify a row.
-/

namespace CatalogViews.Metadata

def primaryKeysColumns : List ResultColumn :=
  [textColumn "TABLE_CAT", textColumn "TABLE_SCHEM", textColumn "TABLE_NAME",
    textColumn "COLUMN_NAME", smallintColumn "KEY_SEQ", textColumn "PK_NAME"]

/-- The position by which `primaryKeys` is sorted: the column name. -/
def primaryKeysOrder : List Nat := [3]

def primaryKeyRows (m : Metadata) (found : Located) : List Row :=
  match found.table.primaryKey with
  | none => []
  | some key => key.columns.zipIdx.map fun (column, index) =>
      [m.catalogCell, .varchar found.schema.name, .varchar found.table.name, .varchar column,
        ordinalCell index, .varchar key.name]

/-- The primary key columns of a table, in the order of their names. -/
def primaryKeys (m : Metadata) (catalog schema table : Option String) :
    Except ViewError ResultTable := do
  let table ← required "table" table
  m.checkOpen
  if !m.catalog.isSelectedBy catalog then return .empty primaryKeysColumns
  let rows := (m.findTables schema table).flatMap m.primaryKeyRows
  return (ResultTable.mk primaryKeysColumns rows).sortRows primaryKeysOrder m.collation

def bestRowColumns : List ResultColumn :=
  [smallintColumn "SCOPE", textColumn "COLUMN_NAME", integerColumn "DATA_TYPE",
    textColumn "TYPE_NAME", integerColumn "COLUMN_SIZE", integerColumn "BUFFER_LENGTH",
    smallintColumn "DECIMAL_DIGITS", smallintColumn "PSEUDO_COLUMN"]

/-- The scope code of an identifier that holds for the session. -/
def sessionScope : Int16 := 2

/-- The code of a column that is not a pseudo column. -/
def notPseudo : Int16 := 1

/-- The row of a column that helps to identify a row. -/
def bestRowRow (column : Column) : Row :=
  let descriptor := column.type.descriptor
  [.smallint sessionScope, .varchar column.name, .integer descriptor.code,
    .varchar descriptor.name, sizeCell column.type, .null,
    if descriptor.supportsScale then .smallint (clamp16 column.type.scale.toInt) else .null,
    .smallint notPseudo]

/-- The rows of the columns of the primary key of a table. -/
def bestRowRows (m : Metadata) (found : Located) : List Row :=
  match found.table.primaryKey with
  | none => []
  | some key => (key.columns.filterMap (found.table.findColumn? m.catalog.caseMode)).map bestRowRow

/-- The columns that identify a row of a table: its primary key, in the order of the key. -/
def bestRow (m : Metadata) (catalog schema table : Option String) :
    Except ViewError ResultTable := do
  let table ← required "table" table
  m.checkOpen
  if !m.catalog.isSelectedBy catalog then return .empty bestRowColumns
  return ⟨bestRowColumns, (m.findTables schema table).flatMap m.bestRowRows⟩

end CatalogViews.Metadata
