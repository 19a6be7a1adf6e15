import CatalogViews.Catalog.Column
import CatalogViews.Catalog.Constraint
import CatalogViews.Catalog.Edit
import CatalogViews.Catalog.Index
import CatalogViews.Names.CaseMode

/-!
# Tables

A table owns its columns, keys, foreign keys and indexes. The edits of this module add and remove
constraints and indexes. They store column names in the spelling of the column that is meant, so
that later comparisons of column names are exact, and the names of the primary key, the unique keys
and the foreign keys of a table share one namespace.
-/

namespace CatalogViews

inductive TableKind where
  | baseTable
  | globalTemporary
  | localTemporary
  | view
deriving Repr, DecidableEq

/-- The table type under which a kind is listed. -/
def TableKind.text : TableKind → String
  | baseTable => "BASE TABLE"
  | globalTemporary => "GLOBAL TEMPORARY"
  | localTemporary => "LOCAL TEMPORARY"
  | view => "VIEW"

structure Table where
  name : String
  kind : TableKind := .baseTable
  /-- Whether the table is internal and never listed. -/
  hidden : Bool := false
  comment : Option String := none
  columns : List Column
  primaryKey : Option Key := none
  uniqueKeys : List Key := []
  /-- The references of this table to keys of other tables. -/
  foreignKeys : List ForeignKey := []
  indexes : List Index := []
deriving Repr, DecidableEq

namespace Table

def column? (table : Table) (name : String) : Option Column :=
  table.columns.find? (·.name == name)

/-- The first column whose name is the same identifier. -/
def findColumn? (table : Table) (mode : CaseMode) (name : String) : Option Column :=
  table.columns.find? fun column => mode.same column.name name

def index? (table : Table) (name : String) : Option Index :=
  table.indexes.find? (·.name == name)

/-- Whether a key is over the given columns, in any order. -/
def covers (columns : List String) (key : Key) : Bool :=
  key.columns.length == columns.length && key.columns.all (columns.contains ·)

/-- The name of a key over the given columns, the primary key before the unique keys. -/
def keyOver? (table : Table) (columns : List String) : Option String :=
  ((table.primaryKey.toList ++ table.uniqueKeys).find? (covers columns)).map (·.name)

/-- Whether a key or a foreign key has that name. -/
def hasConstraint (table : Table) (name : String) : Bool :=
  table.primaryKey.any (·.name == name) || table.uniqueKeys.any (·.name == name) ||
    table.foreignKeys.any (·.name == name)

/-- Makes the first column of exactly that name not null. -/
def requireColumn (name : String) : List Column → List Column
  | [] => []
  | column :: columns =>
    if column.name = name then { column with nullable := false } :: columns
    else column :: requireColumn name columns

/-- Installs a primary key. Its columns become not null. -/
def withPrimaryKey (table : Table) (key : Key) : Table :=
  { table with
    columns := key.columns.foldl (fun columns name => requireColumn name columns) table.columns
    primaryKey := some key }

/-- The name of the primary key of a table where none is given. -/
def defaultKeyName (name : String) : String :=
  "PK_" ++ name

/-- The spelling of the column that a name means. -/
def spelling (table : Table) (mode : CaseMode) (name : String) : Except CatalogError String :=
  match table.findColumn? mode name with
  | some column => .ok column.name
  | none => .error (.columnNotFound name table.name)

/-- The spellings of the columns that the names mean; the first name that means no column fails. -/
def spellings (table : Table) (mode : CaseMode) (names : List String) :
    Except CatalogError (List String) :=
  names.mapM (table.spelling mode)

def addPrimaryKey (mode : CaseMode) (key : Key) : Edit Table Unit := fun table =>
  if table.primaryKey.isSome || table.hasConstraint key.name then
    .error (.constraintExists key.name) table
  else match table.spellings mode key.columns with
    | .error error => .error error table
    | .ok columns => .ok () (table.withPrimaryKey ⟨key.name, columns⟩)

def addUniqueKey (mode : CaseMode) (key : Key) : Edit Table Unit := fun table =>
  if table.hasConstraint key.name then .error (.constraintExists key.name) table
  else match table.spellings mode key.columns with
    | .error error => .error error table
    | .ok columns => .ok () { table with uniqueKeys := table.uniqueKeys ++ [⟨key.name, columns⟩] }

/-- Adds a foreign key whose parent side has been resolved. -/
def addForeignKey (mode : CaseMode) (fk : ForeignKey) : Edit Table Unit := fun table =>
  if table.hasConstraint fk.name then .error (.constraintExists fk.name) table
  else match table.spellings mode fk.columns with
    | .error error => .error error table
    | .ok columns =>
      .ok () { table with foreignKeys := table.foreignKeys ++ [{ fk with columns }] }

/-- Removes the primary key of that name or, if the primary key has another name, every unique key
and every foreign key of that name. -/
def dropConstraint (name : String) : Edit Table Unit := fun table =>
  if table.primaryKey.any (·.name == name) then .ok () { table with primaryKey := none }
  else
    let left := { table with
      uniqueKeys := table.uniqueKeys.filter (·.name != name)
      foreignKeys := table.foreignKeys.filter (·.name != name) }
    if left.uniqueKeys.length = table.uniqueKeys.length ∧
        left.foreignKeys.length = table.foreignKeys.length then
      .error (.constraintNotFound name) left
    else .ok () left

/-- An index with the spellings of the table and its columns. -/
def respell (table : Table) (mode : CaseMode) (index : Index) : Except CatalogError Index := do
  let columns ← index.columns.mapM fun column => do
    return { column with name := ← table.spelling mode column.name }
  return { index with table := table.name, columns }

def addIndex (mode : CaseMode) (index : Index) : Edit Table Unit := fun table =>
  if (table.index? index.name).isSome then .error (.indexExists index.name index.table) table
  else match table.respell mode index with
    | .error error => .error error table
    | .ok index => .ok () { table with indexes := table.indexes ++ [index] }

/-- Removes the first index of that name and returns it. The table is named in the error as the
caller named it. -/
def dropIndex (tableName name : String) : Edit Table Index := fun table =>
  match table.index? name with
  | none => .error (.indexNotFound name tableName) table
  | some index =>
    .ok index { table with indexes := table.indexes.eraseP (·.name == name) }

end Table

end CatalogViews
