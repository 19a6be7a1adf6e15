import CatalogViews.Catalog.Basic
import CatalogViews.Names.LikePattern

/-!
# Looking things up

The read-only questions that the metadata views ask of a catalog: which schemas an argument selects,
what a schema lists, and which table an exact name means. A synonym stands for its target wherever a
table is named exactly, and is listed under its own name.
-/

namespace CatalogViews

/-- A table together with the place where the catalog keeps it. -/
structure Located where
  /-- The schema that owns the table. -/
  schema : Schema
  /-- The key of the table in its schema. -/
  key : String
  table : Table
deriving DecidableEq

/-- Whether two located tables are the same table of the catalog. -/
def Located.sameAs (a b : Located) : Bool :=
  a.schema.name == b.schema.name && a.key == b.key

/-- What a schema lists: a table, or a synonym together with the table it stands for. -/
inductive Entry where
  | table (table : Table)
  | synonym (synonym : Synonym) (target : Table)
deriving DecidableEq

namespace Entry

def name : Entry → String
  | .table listed => listed.name
  | .synonym listed _ => listed.name

def definition : Entry → Table
  | .table listed => listed
  | .synonym _ target => target

def isSynonym : Entry → Bool
  | .table _ => false
  | .synonym _ _ => true

/-- Whether an entry is listed. A hidden table is not; a synonym for it is. -/
def isListed : Entry → Bool
  | .table listed => !listed.hidden
  | .synonym _ _ => true

end Entry

namespace Catalog

/-- Whether an argument selects the catalog: it is absent or empty, or it names the catalog. -/
def isSelectedBy (catalog : Catalog) : Option String → Bool
  | none => true
  | some name => name.isEmpty || catalog.sameIdentifier name catalog.name

/-- The schemas that a name selects: all where there is none, the main schema for the empty name. -/
def schemasNamed (catalog : Catalog) : Option String → List Schema
  | none => catalog.schemas.values
  | some name =>
    if name.isEmpty then catalog.mainSchema?.toList else (catalog.schema? name).toList

/-- The schemas that a pattern selects: all where there is none, the main schema for the empty
pattern. -/
def schemasLike (catalog : Catalog) : Option LikePattern → List Schema
  | none => catalog.schemas.values
  | some pattern =>
    if pattern.source.isEmpty then catalog.mainSchema?.toList
    else catalog.schemas.values.filter (pattern.isMatch ·.name)

/-- The table that a synonym stands for, if it still exists. -/
def target? (catalog : Catalog) (synonym : Synonym) : Option Located := do
  let schema ← catalog.schema? synonym.targetSchema
  let table ← schema.table? catalog.caseMode synonym.targetTable
  return ⟨schema, catalog.caseMode.key synonym.targetTable, table⟩

/-- The entries of a schema whose names match: the tables, hidden ones included, then the synonyms
whose targets exist. -/
def entries (catalog : Catalog) (schema : Schema) (pattern : Option LikePattern) : List Entry :=
  let tables := schema.tables.values.filter (LikePattern.accepts pattern ·.name)
  let synonyms := schema.synonyms.values.filter (LikePattern.accepts pattern ·.name)
  tables.map .table ++ synonyms.filterMap fun synonym =>
    (catalog.target? synonym).map fun found => .synonym synonym found.table

/-- The table that a name means in a schema: a table of the schema or the target of a synonym. -/
def findTable? (catalog : Catalog) (schema : Schema) (name : String) : Option Located :=
  match schema.table? catalog.caseMode name with
  | some table => some ⟨schema, catalog.caseMode.key name, table⟩
  | none => (schema.synonym? catalog.caseMode name).bind catalog.target?

/-- The table that a name means in the schema of the given name. -/
def findTableIn? (catalog : Catalog) (schema name : String) : Option Located :=
  (catalog.schema? schema).bind (catalog.findTable? · name)

end Catalog

end CatalogViews
