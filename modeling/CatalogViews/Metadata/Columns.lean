import CatalogViews.Metadata.Basic

/-!
# Columns

The view that lists the columns of tables and synonyms. A column keeps the position that it has in
its table, also when a pattern leaves other columns out.
-/

namespace CatalogViews

/-- The declared precision of a type as a column reports it. -/
def sizeCell (type : DataType) : Value :=
  .integer (clamp32 type.precision.toInt)

namespace Metadata

def columnsColumns : List ResultColumn :=
  [textColumn "TABLE_CAT", textColumn "TABLE_SCHEM", textColumn "TABLE_NAME",
    textColumn "COLUMN_NAME", integerColumn "DATA_TYPE", textColumn "TYPE_NAME",
    integerColumn "COLUMN_SIZE", integerColumn "BUFFER_LENGTH", integerColumn "DECIMAL_DIGITS",
    integerColumn "NUM_PREC_RADIX", integerColumn "NULLABLE", textColumn "REMARKS",
    textColumn "COLUMN_DEF", integerColumn "SQL_DATA_TYPE", integerColumn "SQL_DATETIME_SUB",
    integerColumn "CHAR_OCTET_LENGTH", integerColumn "ORDINAL_POSITION",
    textColumn "IS_NULLABLE", textColumn "SCOPE_CATALOG", textColumn "SCOPE_SCHEMA",
    textColumn "SCOPE_TABLE", smallintColumn "SOURCE_DATA_TYPE", textColumn "IS_AUTOINCREMENT",
    textColumn "IS_GENERATEDCOLUMN"]

/-- The positions by which `columns` is sorted: the catalog, the schema, the table, the position. -/
def columnsOrder : List Nat := [0, 1, 2, 16]

/-- The row of the column at an index of a table that is listed under a name. The expression of a
generated column is not its default. -/
def columnRow (m : Metadata) (schema table : String) (column : Column) (index : Nat) : Row :=
  let descriptor := column.type.descriptor
  [m.catalogCell, .varchar schema, .varchar table, .varchar column.name,
    .integer descriptor.code, .varchar descriptor.name, sizeCell column.type, .null,
    .integer column.type.scale, if column.type.isNumeric then .integer 10 else .null,
    .integer (if column.nullable then 1 else 0), .ofText? column.comment,
    if column.generated then .null else .ofText? column.expression, .null, .null,
    sizeCell column.type, .integer (clamp32 (index + 1 : Nat)), yesNoCell column.nullable, .null,
    .null, .null, .null, yesNoCell column.autoIncrement, yesNoCell column.generated]

/-- The rows of the columns of an entry whose names match a pattern. -/
def entryColumnRows (m : Metadata) (pattern : Option LikePattern) (schema : Schema)
    (entry : Entry) : List Row :=
  (entry.definition.columns.zipIdx.filter fun (column, _) =>
    LikePattern.accepts pattern column.name).map fun (column, index) =>
      m.columnRow schema.name entry.name column index

/-- The columns that match a pattern, of the tables and synonyms that match the other patterns. -/
def columns (m : Metadata) (catalog schema table column : Option String) :
    Except ViewError ResultTable := do
  m.checkOpen
  if !m.catalog.isSelectedBy catalog then return .empty columnsColumns
  let schemaLike ← m.like? schema
  let tableLike ← m.like? table
  let columnLike ← m.like? column
  let rows := (m.catalog.schemasLike schemaLike).flatMap fun schema =>
    ((m.catalog.entries schema tableLike).filter (·.isListed)).flatMap
      (m.entryColumnRows columnLike schema)
  return (ResultTable.mk columnsColumns rows).sortRows columnsOrder m.collation

end Metadata

end CatalogViews
