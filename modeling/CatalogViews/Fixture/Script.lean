import CatalogViews.Catalog.Operation
import CatalogViews.Fixture.Basic
import CatalogViews.Fixture.Error
import CatalogViews.Types.Reading

/-!
# Building a catalog

A fixture is built by operations on a new catalog. First every schema is created, once for each
name; then follows a script, a list of operations that stops at the first one that fails: the tables
with their keys, then the foreign keys and indexes, and the synonyms last. A table may therefore
refer to any other, wherever the two stand in the document.

An operation whose texts stand for nothing takes its place in the script as an error, so of several
faults the one that comes first in the script is the one that is reported.
-/

namespace CatalogViews

def TableKind.ofText? (source : String) : Option TableKind :=
  match Text.upper (Text.trim source) with
  | "TABLE" | "BASE TABLE" => some baseTable
  | "VIEW" => some view
  | "GLOBAL TEMPORARY" => some globalTemporary
  | "LOCAL TEMPORARY" => some localTemporary
  | _ => none

/-- The action that a text stands for. No action is kept as a restriction. -/
def ReferentialAction.ofText? (source : String) : Option ReferentialAction :=
  match Text.upper (Text.trim source) with
  | "CASCADE" => some cascade
  | "RESTRICT" | "NO ACTION" => some restrict
  | "SET NULL" => some setNull
  | "SET DEFAULT" => some setDefault
  | _ => none

/-- The described column. A generation expression takes precedence over a default. -/
def ColumnSpec.column (spec : ColumnSpec) : Except FixtureError Column :=
  match DataType.ofText? spec.type with
  | none => .error (.unknownType spec.type)
  | some type =>
    let column : Column := {
      name := spec.name
      type
      nullable := spec.nullable
      autoIncrement := spec.autoIncrement
      comment := spec.comment }
    .ok (match spec.generated, spec.default with
      | some expression, _ => column.generatedBy expression
      | none, some expression => column.withDefault expression
      | none, none => column)

def ReferentialAction.ofSpec : Option String → Except FixtureError ReferentialAction
  | none => .ok default
  | some source =>
    match ReferentialAction.ofText? source with
    | some action => .ok action
    | none => .error (.unknownAction source)

def ForeignKeySpec.foreignKey (spec : ForeignKeySpec) : Except FixtureError ForeignKey := do
  let onDelete ← ReferentialAction.ofSpec spec.onDelete
  let onUpdate ← ReferentialAction.ofSpec spec.onUpdate
  return {
    name := spec.name
    columns := spec.columns
    parentSchema := spec.parentSchema
    parentTable := spec.parentTable
    parentColumns := spec.parentColumns
    onDelete, onUpdate }

def IndexSpec.index (table : String) (spec : IndexSpec) : Index :=
  { name := spec.name
    table
    kind := if spec.hash then .hash else .ordered
    columns := spec.columns.map fun name =>
      ⟨name, if spec.descending.contains name then .descending else .ascending⟩
    unique := spec.unique
    systemGenerated := spec.systemGenerated
    statistics := spec.statistics }

namespace TableSpec

def tableKind (spec : TableSpec) : Except FixtureError TableKind :=
  match spec.kind with
  | none => .ok .baseTable
  | some source =>
    match TableKind.ofText? source with
    | some kind => .ok kind
    | none => .error (.unknownTableKind source)

/-- The described table without keys, foreign keys and indexes. -/
def table (spec : TableSpec) : Except FixtureError Table := do
  let columns ← spec.columns.mapM (·.column)
  let kind ← spec.tableKind
  return { name := spec.name, kind, hidden := spec.hidden, comment := spec.comment, columns }

def key? (spec : TableSpec) : Option Key :=
  if spec.primaryKey.isEmpty then none
  else some ⟨spec.primaryKeyName.getD (Table.defaultKeyName spec.name), spec.primaryKey⟩

end TableSpec

/-- An operation of a script, or why there is none. -/
abbrev ScriptStep := Except FixtureError Operation

/-- The operations that create a table and its keys. -/
def TableSpec.creation (schema : String) (spec : TableSpec) : List ScriptStep :=
  spec.table.map (.createTableIn schema) ::
    (spec.key?.toList.map fun key => .ok (.setPrimaryKey schema spec.name key)) ++
    spec.uniqueKeys.map fun key => .ok (.addUniqueKey schema spec.name key)

/-- The operations that add the foreign keys and the indexes of a table. -/
def TableSpec.references (schema : String) (spec : TableSpec) : List ScriptStep :=
  (spec.foreignKeys.map fun fk => fk.foreignKey.map (.addForeignKey schema spec.name)) ++
    spec.indexes.map fun index => .ok (.addIndex schema (index.index spec.name))

namespace Fixture

/-- The catalog that the script starts with: it has the settings and the schemas of the fixture. A
schema that is there already is not created again. -/
def initial (fixture : Fixture) : Catalog :=
  (Catalog.named fixture.name).after
    ([.setCaseMode fixture.caseMode, .setCollation fixture.collation] ++
      fixture.schemas.map fun schema => .createSchema schema.name)

/-- The operations that fill the schemas. -/
def script (fixture : Fixture) : List ScriptStep :=
  (fixture.schemas.flatMap fun schema => schema.tables.flatMap (·.creation schema.name)) ++
    (fixture.schemas.flatMap fun schema => schema.tables.flatMap (·.references schema.name)) ++
    fixture.schemas.flatMap fun schema =>
      schema.synonyms.map fun synonym => .ok (.createSynonym schema.name synonym)

/-- Carries out the operations of a script up to the first that fails. -/
def run : List ScriptStep → Catalog → Except FixtureError Catalog
  | [], catalog => .ok catalog
  | .error error :: _, _ => .error error
  | .ok operation :: steps, catalog =>
    match operation.perform catalog with
    | .ok _ catalog => run steps catalog
    | .error error _ => .error (.catalog error)

def build (fixture : Fixture) : Except FixtureError Catalog :=
  run fixture.script fixture.initial

def buildToml (source : String) : Except FixtureError Catalog :=
  match ofToml? source with
  | some fixture => fixture.build
  | none => .error .malformed

end Fixture

end CatalogViews
