import CatalogViews.Metadata.Basic

/-!
# Indexes

The view on the indexes of a table, one row per indexed column. Indexes that the engine made by
itself are left out. A unique index over columns that are all not null is reported by its structure,
every other index as a statistic.
-/

namespace CatalogViews.Metadata

def indexInfoColumns : List ResultColumn :=
  [textColumn "TABLE_CAT", textColumn "TABLE_SCHEM", textColumn "TABLE_NAME",
    booleanColumn "NON_UNIQUE", textColumn "INDEX_QUALIFIER", textColumn "INDEX_NAME",
    smallintColumn "TYPE", smallintColumn "ORDINAL_POSITION", textColumn "COLUMN_NAME",
    textColumn "ASC_OR_DESC", bigintColumn "CARDINALITY", bigintColumn "PAGES",
    textColumn "FILTER_CONDITION"]

/-- The positions by which `indexInfo` is sorted: the unique flag, the type, the index name, the
position. -/
def indexInfoOrder : List Nat := [3, 6, 5, 7]

/-- The code of an index that is reported as a statistic. -/
def statisticIndex : Int16 := 0

def hashedIndex : Int16 := 2

/-- The code of an index of another structure. -/
def otherIndex : Int16 := 3

/-- Whether all columns of an index are columns of the table that are not null. -/
def allRequired (m : Metadata) (table : Table) (index : Index) : Bool :=
  index.columns.all fun indexed =>
    match table.findColumn? m.catalog.caseMode indexed.name with
    | some column => !column.nullable
    | none => false

def indexType (m : Metadata) (table : Table) (index : Index) : Int16 :=
  if !index.unique || !m.allRequired table index then statisticIndex
  else match index.kind with
    | .hash => hashedIndex
    | .ordered => otherIndex

/-- The pages that a number of bytes takes, unknown when the page size is zero. -/
def pagesCell (pageSize bytes : UInt64) : Value :=
  if pageSize.toNat = 0 then .null else .bigint (clamp64 (bytes / pageSize))

def directionText : SortOrder → String
  | .ascending => "A"
  | .descending => "D"

def indexRows (m : Metadata) (approximate : Bool) (found : Located) (index : Index) : List Row :=
  let statistics := index.statistics
  let rows := if approximate then statistics.approximateRows else statistics.rows
  index.columns.zipIdx.map fun (column, position) =>
    [m.catalogCell, .varchar found.schema.name, .varchar found.table.name,
      .boolean (!index.unique), m.catalogCell, .varchar index.name,
      .smallint (m.indexType found.table index), ordinalCell position, .varchar column.name,
      .varchar (directionText column.order), .bigint (clamp64 rows),
      pagesCell m.settings.pageSize statistics.diskBytes, .null]

/-- The indexes of a table, only the unique ones on request. The cardinality is the exact or the
estimated number of rows. -/
def indexInfo (m : Metadata) (catalog schema table : Option String) (unique approximate : Bool) :
    Except ViewError ResultTable := do
  let table ← required "table" table
  m.checkOpen
  if !m.catalog.isSelectedBy catalog then return .empty indexInfoColumns
  let rows := (m.findTables schema table).flatMap fun found =>
    (found.table.indexes.filter fun index =>
      index.isMaterialized && (!unique || index.unique)).flatMap (m.indexRows approximate found)
  return (ResultTable.mk indexInfoColumns rows).sortRows indexInfoOrder m.collation

end CatalogViews.Metadata
