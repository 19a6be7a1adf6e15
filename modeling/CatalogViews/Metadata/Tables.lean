import CatalogViews.Metadata.Basic

/-!
# Catalogs, schemas and tables

The views that list the catalog, its schemas, the table types, and tables with synonyms. A synonym
is listed with the comment of its target, even of a hidden one; a hidden table is not listed itself.
-/

namespace CatalogViews

/-- The table type under which synonyms are listed. -/
def synonymType : String := "SYNONYM"

/-- The table types, in increasing order. -/
def tableTypes : List String :=
  ["BASE TABLE", "GLOBAL TEMPORARY", "LOCAL TEMPORARY", synonymType, "VIEW"]

/-- Another word for the first table type. -/
def tableTypeAlias : String := "TABLE"

/-- The table type that is requested by a text, which is looked up by binary search. -/
def acceptedType? (requested : String) : Option String :=
  match Text.search? tableTypes requested with
  | some index => tableTypes[index]?
  | none => if requested == tableTypeAlias then tableTypes[0]? else none

/-- The table types that a list of requested types selects. An unknown type selects nothing. -/
def acceptedTypes (requested : List String) : List String :=
  requested.filterMap acceptedType?

namespace Metadata

def catalogsColumns : List ResultColumn := [textColumn "TABLE_CAT"]

def catalogs (m : Metadata) : Except ViewError ResultTable := do
  m.checkOpen
  return ⟨catalogsColumns, [[m.catalogCell]]⟩

def schemasColumns : List ResultColumn := [textColumn "TABLE_SCHEM", textColumn "TABLE_CATALOG"]

/-- The schemas that a pattern selects, in the order of their names. -/
def listSchemas (m : Metadata) (catalog schema : Option String) :
    Except ViewError ResultTable := do
  m.checkOpen
  if !m.catalog.isSelectedBy catalog then return .empty schemasColumns
  let schemaLike ← m.like? schema
  let names := m.collation.sort ((m.catalog.schemasLike schemaLike).map (·.name))
  return ⟨schemasColumns, names.map fun name => [.varchar name, m.catalogCell]⟩

/-- All schemas, in the order of their names. -/
def schemas (m : Metadata) : Except ViewError ResultTable :=
  m.listSchemas none none

def tableTypesColumns : List ResultColumn := [textColumn "TABLE_TYPE"]

def listTableTypes (m : Metadata) : Except ViewError ResultTable := do
  m.checkOpen
  return ⟨tableTypesColumns, tableTypes.map fun type => [.varchar type]⟩

def tablesColumns : List ResultColumn :=
  [textColumn "TABLE_CAT", textColumn "TABLE_SCHEM", textColumn "TABLE_NAME",
    textColumn "TABLE_TYPE", textColumn "REMARKS", textColumn "TYPE_CAT",
    textColumn "TYPE_SCHEM", textColumn "TYPE_NAME", textColumn "SELF_REFERENCING_COL_NAME",
    textColumn "REF_GENERATION"]

/-- The positions by which `tables` is sorted: the table type, the catalog, the schema, the name. -/
def tablesOrder : List Nat := [3, 0, 1, 2]

/-- The table type under which an entry is listed. -/
def entryType : Entry → String
  | .table table => table.kind.text
  | .synonym _ _ => synonymType

def tableRow (m : Metadata) (schema : Schema) (entry : Entry) : Row :=
  [m.catalogCell, .varchar schema.name, .varchar entry.name, .varchar (entryType entry),
    .ofText? entry.definition.comment, .null, .null, .null, .null, .null]

/-- The rows of the entries of a schema that match a pattern and have one of the accepted types. -/
def tableRows (m : Metadata) (pattern : Option LikePattern) (accepted : Option (List String))
    (schema : Schema) : List Row :=
  ((m.catalog.entries schema pattern).filter fun entry =>
    entry.isListed && accepted.all (·.contains (entryType entry))).map (m.tableRow schema)

/-- Tables, views and synonyms that match the patterns and have one of the requested types. A list
of types none of which is known gives no rows, before the patterns are looked at. -/
def tables (m : Metadata) (catalog schema table : Option String) (types : Option (List String)) :
    Except ViewError ResultTable := do
  m.checkOpen
  if !m.catalog.isSelectedBy catalog then return .empty tablesColumns
  let accepted := types.map acceptedTypes
  if accepted == some [] then return .empty tablesColumns
  let schemaLike ← m.like? schema
  let tableLike ← m.like? table
  let rows := (m.catalog.schemasLike schemaLike).flatMap (m.tableRows tableLike accepted)
  return (ResultTable.mk tablesColumns rows).sortRows tablesOrder m.collation

end Metadata

end CatalogViews
