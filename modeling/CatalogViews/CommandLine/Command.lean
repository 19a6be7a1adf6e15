import CatalogViews.CommandLine.Options
import CatalogViews.Metadata.Columns
import CatalogViews.Metadata.ForeignKeys
import CatalogViews.Metadata.Indexes
import CatalogViews.Metadata.PrimaryKeys
import CatalogViews.Metadata.Tables
import CatalogViews.Metadata.TypeInfo

/-!
# Commands

Each command shows one metadata view. `Command.form?` says which options the command of a name
takes, and which of them it needs; `Command.view` is the view that it shows.
-/

namespace CatalogViews.CommandLine

/-- The catalog and the schema to which a view is restricted. -/
structure Scope where
  catalog : Option String := none
  schema : Option String := none
deriving Repr, DecidableEq

structure ScopedTable where
  scope : Scope
  table : String
deriving Repr, DecidableEq

inductive Command where
  | catalogs
  | schemas (scope : Scope)
  | tableTypes
  | tables (scope : Scope) (table : Option String) (types : Option (List String))
  | columns (scope : Scope) (table column : Option String)
  | primaryKeys (table : ScopedTable)
  | importedKeys (table : ScopedTable)
  | exportedKeys (table : ScopedTable)
  | crossReference (primary foreign : ScopedTable)
  | indexInfo (table : ScopedTable) (unique approximate : Bool)
  | bestRow (table : ScopedTable)
  | typeInfo
deriving Repr, DecidableEq

/-- The options of a command and how it is made from those that are given, which fails when one that
it needs is not among them. -/
structure CommandForm where
  options : List OptionForm
  command? : Given → Option Command

namespace CommandForm

def valueOptions (names : List String) : List OptionForm :=
  names.map fun name => { name }

/-- The scope that is given by the options of these names. -/
def scope (catalog schema : String) (given : Given) : Scope :=
  ⟨given.value? catalog, given.value? schema⟩

/-- The table that is given by the options of these names. -/
def scopedTable? (catalog schema table : String) (given : Given) : Option ScopedTable :=
  (given.value? table).map fun table => ⟨scope catalog schema given, table⟩

/-- The form of a command without options. -/
def plain (command : Command) : CommandForm :=
  ⟨[], fun _ => some command⟩

def onTable (command : ScopedTable → Command) : CommandForm :=
  ⟨valueOptions ["catalog", "schema", "table"], fun given =>
    (scopedTable? "catalog" "schema" "table" given).map command⟩

end CommandForm

namespace Command

open CommandForm

def form? : String → Option CommandForm
  | "catalogs" => some (plain .catalogs)
  | "schemas" => some ⟨valueOptions ["catalog", "schema"], fun given =>
      some (.schemas (scope "catalog" "schema" given))⟩
  | "table-types" => some (plain .tableTypes)
  | "tables" => some
      ⟨valueOptions ["catalog", "schema", "table"] ++ [{ name := "types", kind := .list }],
        fun given => some (.tables (scope "catalog" "schema" given) (given.value? "table")
          ((given.values? "types").map (·.map Text.trim)))⟩
  | "columns" => some ⟨valueOptions ["catalog", "schema", "table", "column"], fun given =>
      some (.columns (scope "catalog" "schema" given) (given.value? "table")
        (given.value? "column"))⟩
  | "primary-keys" => some (onTable .primaryKeys)
  | "imported-keys" => some (onTable .importedKeys)
  | "exported-keys" => some (onTable .exportedKeys)
  | "cross-reference" => some
      ⟨valueOptions ["primary-catalog", "primary-schema", "primary-table", "foreign-catalog",
        "foreign-schema", "foreign-table"], fun given => do
          let primary ← scopedTable? "primary-catalog" "primary-schema" "primary-table" given
          let foreign ← scopedTable? "foreign-catalog" "foreign-schema" "foreign-table" given
          return .crossReference primary foreign⟩
  | "index-info" => some
      ⟨valueOptions ["catalog", "schema", "table"] ++
          [{ name := "unique", kind := .flag }, { name := "approximate", kind := .flag }],
        fun given => (scopedTable? "catalog" "schema" "table" given).map fun table =>
          .indexInfo table (given.has "unique") (given.has "approximate")⟩
  | "best-row" => some (onTable .bestRow)
  | "type-info" => some (plain .typeInfo)
  | _ => none

/-- The command that the words after its name make of it. Nothing but its options may be among them;
two hyphens may end them. -/
def ofWords? (name : String) (words : List String) : Option Command := do
  let form ← form? name
  let (given, rest) ← scan form.options words []
  guard (rest = [] ∨ rest = ["--"])
  form.command? given

def view (m : Metadata) : Command → Except ViewError ResultTable
  | catalogs => m.catalogs
  | schemas scope => m.listSchemas scope.catalog scope.schema
  | tableTypes => m.listTableTypes
  | tables scope table types => m.tables scope.catalog scope.schema table types
  | columns scope table column => m.columns scope.catalog scope.schema table column
  | primaryKeys t => m.primaryKeys t.scope.catalog t.scope.schema (some t.table)
  | importedKeys t => m.importedKeys t.scope.catalog t.scope.schema (some t.table)
  | exportedKeys t => m.exportedKeys t.scope.catalog t.scope.schema (some t.table)
  | crossReference p f => m.crossReference p.scope.catalog p.scope.schema (some p.table)
      f.scope.catalog f.scope.schema (some f.table)
  | indexInfo t unique approximate =>
    m.indexInfo t.scope.catalog t.scope.schema (some t.table) unique approximate
  | bestRow t => m.bestRow t.scope.catalog t.scope.schema (some t.table)
  | typeInfo => m.typeInfo

end Command

end CatalogViews.CommandLine
