import CatalogViews.Catalog.Basic
import CatalogViews.Document.Node
import CatalogViews.Toml.Document

/-!
# Fixtures

A fixture is a document that describes a catalog: its schemas with their tables and synonyms, and
for each table its columns, keys, foreign keys and indexes. The structures of this module hold such
a description as it was written. Types, table kinds and referential actions are still the texts of
the document; what they stand for, and whether the parts fit together, is found out when the catalog
is built.

Each structure has a reader, which takes its fields from a record in the order in which they are
declared here.
-/

namespace CatalogViews

structure ColumnSpec where
  name : String
  type : String
  nullable : Bool := true
  autoIncrement : Bool := false
  /-- The expression that computes the column. -/
  generated : Option String := none
  default : Option String := none
  comment : Option String := none
deriving Repr, DecidableEq

structure ForeignKeySpec where
  name : String
  columns : List String
  /-- The schema of the parent; the child's own schema where none is given. -/
  parentSchema : Option String := none
  parentTable : String
  parentColumns : List String
  onDelete : Option String := none
  onUpdate : Option String := none
deriving Repr, DecidableEq

structure IndexSpec where
  name : String
  columns : List String
  /-- The columns among `columns` that are sorted downwards. -/
  descending : List String := []
  unique : Bool := false
  hash : Bool := false
  systemGenerated : Bool := false
  statistics : IndexStatistics := {}
deriving Repr, DecidableEq

structure TableSpec where
  name : String
  kind : Option String := none
  hidden : Bool := false
  comment : Option String := none
  columns : List ColumnSpec := []
  /-- The columns of the primary key; none for a table without one. -/
  primaryKey : List String := []
  primaryKeyName : Option String := none
  uniqueKeys : List Key := []
  foreignKeys : List ForeignKeySpec := []
  indexes : List IndexSpec := []
deriving Repr, DecidableEq

/-- The description of a part of a schema. Several of them may be about one schema. -/
structure SchemaSpec where
  name : String
  tables : List TableSpec := []
  synonyms : List Synonym := []
deriving Repr, DecidableEq

/-- The description of a catalog. -/
structure Fixture where
  name : String
  caseMode : CaseMode
  collation : Option String := none
  schemas : List SchemaSpec := []
deriving DecidableEq

open FieldReader

def ColumnSpec.reader : FieldReader ColumnSpec := do
  let name ← required "name" Node.text?
  let type ← required "type" Node.text?
  let nullable ← withDefault "nullable" true Node.boolean?
  let autoIncrement ← flag "auto_increment"
  let generated ← optional "generated" Node.text?
  let default ← optional "default" Node.text?
  let comment ← optional "comment" Node.text?
  return { name, type, nullable, autoIncrement, generated, default, comment }

def Key.reader : FieldReader Key := do
  let name ← required "name" Node.text?
  let columns ← names "columns"
  return { name, columns }

def ForeignKeySpec.reader : FieldReader ForeignKeySpec := do
  let name ← required "name" Node.text?
  let columns ← names "columns"
  let parentSchema ← optional "references_schema" Node.text?
  let parentTable ← required "references_table" Node.text?
  let parentColumns ← names "references_columns"
  let onDelete ← optional "on_delete" Node.text?
  let onUpdate ← optional "on_update" Node.text?
  return { name, columns, parentSchema, parentTable, parentColumns, onDelete, onUpdate }

def IndexSpec.reader : FieldReader IndexSpec := do
  let name ← required "name" Node.text?
  let columns ← names "columns"
  let descending ← list "descending" Node.text?
  let unique ← flag "unique"
  let hash ← flag "hash"
  let systemGenerated ← flag "system_generated"
  let rows ← count "row_count"
  let approximateRows ← count "row_count_approximation"
  let diskBytes ← count "disk_space_used"
  return { name, columns, descending, unique, hash, systemGenerated
           statistics := { rows, approximateRows, diskBytes } }

def TableSpec.reader : FieldReader TableSpec := do
  let name ← required "name" Node.text?
  let kind ← optional "kind" Node.text?
  let hidden ← flag "hidden"
  let comment ← optional "comment" Node.text?
  let columns ← list "columns" (Node.record? ColumnSpec.reader)
  let primaryKey ← list "primary_key" Node.text?
  let primaryKeyName ← optional "primary_key_name" Node.text?
  let uniqueKeys ← list "unique" (Node.record? Key.reader)
  let foreignKeys ← list "foreign_keys" (Node.record? ForeignKeySpec.reader)
  let indexes ← list "indexes" (Node.record? IndexSpec.reader)
  return { name, kind, hidden, comment, columns, primaryKey, primaryKeyName, uniqueKeys
           foreignKeys, indexes }

def Synonym.reader : FieldReader Synonym := do
  let name ← required "name" Node.text?
  let targetSchema ← required "schema" Node.text?
  let targetTable ← required "table" Node.text?
  return { name, targetSchema, targetTable }

def SchemaSpec.reader : FieldReader SchemaSpec := do
  let name ← required "name" Node.text?
  let tables ← list "tables" (Node.record? TableSpec.reader)
  let synonyms ← list "synonyms" (Node.record? Synonym.reader)
  return { name, tables, synonyms }

namespace Fixture

/-- Reads the description of a catalog. -/
def reader : FieldReader Fixture := do
  let name ← withDefault "catalog" defaultCatalogName Node.text?
  let sensitive ← flag "case_sensitive_identifiers"
  let collation ← optional "collation" Node.text?
  let schemas ← list "schemas" (Node.record? SchemaSpec.reader)
  return { name, caseMode := if sensitive then .sensitive else .insensitive, collation, schemas }

def ofNode? (node : Node) : Option Fixture :=
  node.record? reader

def ofToml? (source : String) : Option Fixture :=
  (Toml.document? source).bind ofNode?

end Fixture

end CatalogViews
