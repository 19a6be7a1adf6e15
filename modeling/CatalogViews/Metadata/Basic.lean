import CatalogViews.Catalog.Lookup
import CatalogViews.Metadata.Session

/-!
# Metadata

What the metadata views work on: a catalog, the settings of the views, the collation by which rows
are sorted, and a session. The views share a few rules. A required argument is checked first, then
that the session is open. An argument that names another catalog gives a table without rows, before
anything else is looked at. Patterns are compiled with the escape character of the settings and
ignore letter case when the catalog does.
-/

namespace CatalogViews

structure Settings where
  /-- The escape character of all pattern arguments. -/
  searchEscape : Char := '\\'
  /-- The bytes of a storage page. -/
  pageSize : UInt64 := 4096
deriving Repr, DecidableEq

/-- What the metadata views work on. -/
structure Metadata where
  catalog : Catalog
  settings : Settings
  collation : Collation
  session : Session

namespace Metadata

/-- The metadata of a catalog, with rows sorted by the collation of the catalog. -/
def ofCatalog (catalog : Catalog) (settings : Settings) (session : Session) : Metadata :=
  ⟨catalog, settings, .ofName catalog.collation, session⟩

/-- Fails when the session is closed. -/
def checkOpen (m : Metadata) : Except ViewError Unit :=
  if m.session.closed then .error .sessionClosed else .ok ()

/-- The value of a required argument. -/
def required (name : String) : Option String → Except ViewError String
  | some value => .ok value
  | none => .error (.missingArgument name)

/-- The compiled form of a pattern argument, none for no pattern. -/
def like? (m : Metadata) : Option String → Except ViewError (Option LikePattern)
  | none => .ok none
  | some source =>
    match LikePattern.compile? source m.settings.searchEscape
        (m.catalog.caseMode == .insensitive) with
    | some pattern => .ok (some pattern)
    | none => .error (.invalidPattern source)

/-- The tables that an exact name means in the schemas that a schema argument selects, without the
hidden ones. -/
def findTables (m : Metadata) (schema : Option String) (table : String) : List Located :=
  ((m.catalog.schemasNamed schema).filterMap (m.catalog.findTable? · table)).filter
    (!·.table.hidden)

def catalogCell (m : Metadata) : Value :=
  .varchar m.catalog.name

end Metadata

/-- The integer of 32 bits nearest to a number. -/
def clamp32 (n : Int) : Int32 :=
  if n < Int32.minValue.toInt then .minValue
  else if Int32.maxValue.toInt < n then .maxValue
  else .ofInt n

/-- The integer of 16 bits nearest to a number. -/
def clamp16 (n : Int) : Int16 :=
  if n < Int16.minValue.toInt then .minValue
  else if Int16.maxValue.toInt < n then .maxValue
  else .ofInt n

/-- The integer of 64 bits nearest to a count. -/
def clamp64 (n : UInt64) : Int64 :=
  if n ≤ Int64.maxValue.toUInt64 then n.toInt64 else .maxValue

/-- The position of a list element counted from one, as a cell. -/
def ordinalCell (index : Nat) : Value :=
  .smallint (clamp16 (index + 1 : Nat))

/-- A truth value as one of the words `YES` and `NO`. -/
def yesNoCell (flag : Bool) : Value :=
  .varchar (if flag then "YES" else "NO")

def textColumn (name : String) : ResultColumn := ⟨name, .varchar none⟩

def integerColumn (name : String) : ResultColumn := ⟨name, .integer⟩

def smallintColumn (name : String) : ResultColumn := ⟨name, .smallint⟩

def bigintColumn (name : String) : ResultColumn := ⟨name, .bigint⟩

def booleanColumn (name : String) : ResultColumn := ⟨name, .boolean⟩

end CatalogViews
