import CatalogViews.Catalog.Keyed
import CatalogViews.Catalog.Table
import CatalogViews.Text.Order

/-!
# Schemas

A schema is a named collection of tables and synonyms, which share one namespace. Both are kept
under the key that the case mode gives their name when they are created; the stored objects keep the
names with which they were declared.
-/

namespace CatalogViews

/-- Another name for a table, possibly of another schema. The table is looked up when the synonym is
used, so a synonym may outlive it. -/
structure Synonym where
  name : String
  targetSchema : String
  targetTable : String
deriving Repr, DecidableEq

/-- A named collection of tables and synonyms. -/
structure Schema where
  name : String
  tables : Keyed Table
  synonyms : Keyed Synonym
deriving DecidableEq

namespace Schema

/-- The schema of that name without tables and synonyms. -/
def empty (name : String) : Schema :=
  ⟨name, .empty, .empty⟩

instance : Inhabited Schema := ⟨empty ""⟩

def isEmpty (schema : Schema) : Bool :=
  schema.tables.isEmpty && schema.synonyms.isEmpty

/-- The table whose name is the same identifier. -/
def table? (schema : Schema) (mode : CaseMode) (name : String) : Option Table :=
  schema.tables.find? (mode.key name)

/-- The synonym whose name is the same identifier. -/
def synonym? (schema : Schema) (mode : CaseMode) (name : String) : Option Synonym :=
  schema.synonyms.find? (mode.key name)

/-- Whether there is a table of that name, letter case aside. -/
def hasTable (schema : Schema) (name : String) : Bool :=
  (schema.table? .insensitive name).isSome

/-- Whether a table or a synonym has that key. -/
def hasKey (schema : Schema) (key : String) : Bool :=
  schema.tables.contains key || schema.synonyms.contains key

def createTable (mode : CaseMode) (table : Table) : Edit Schema Unit := fun schema =>
  if schema.hasKey (mode.key table.name) then .error (.tableExists table.name) schema
  else .ok () { schema with tables := schema.tables.insertNew (mode.key table.name) table }

def createSynonym (mode : CaseMode) (synonym : Synonym) : Edit Schema Unit := fun schema =>
  if schema.hasKey (mode.key synonym.name) then .error (.tableExists synonym.name) schema
  else .ok () { schema with
    synonyms := schema.synonyms.insertNew (mode.key synonym.name) synonym }

/-- Removes a table and returns it. -/
def dropTable (mode : CaseMode) (name : String) : Edit Schema Table := fun schema =>
  match schema.table? mode name with
  | none => .error (.tableNotFound name) schema
  | some table => .ok table { schema with tables := schema.tables.erase (mode.key name) }

/-- Removes a synonym and returns it. -/
def dropSynonym (mode : CaseMode) (name : String) : Edit Schema Synonym := fun schema =>
  match schema.synonym? mode name with
  | none => .error (.synonymNotFound name) schema
  | some synonym => .ok synonym { schema with synonyms := schema.synonyms.erase (mode.key name) }

def tableFocus (mode : CaseMode) (name : String) : Focus Schema Table := fun schema =>
  match schema.table? mode name with
  | none => .error (.tableNotFound name)
  | some table => .ok (table, fun table' =>
      { schema with tables := schema.tables.replace (mode.key name) table' })

/-- The schema with its tables and its synonyms in the order of their names. -/
def inNameOrder (schema : Schema) : Schema :=
  { schema with
    tables := schema.tables.sortBy fun a b => (Text.compareText a.2.name b.2.name).isLE
    synonyms := schema.synonyms.sortBy fun a b => (Text.compareText a.2.name b.2.name).isLE }

end Schema

end CatalogViews
