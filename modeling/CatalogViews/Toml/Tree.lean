import CatalogViews.Document.Node

/-!
# Tables under construction

While a TOML document is read, its tables grow: a later header or key may add to a table that
earlier lines made, or must not. `Item` is a document in that state. It remembers how each table
came about, and the arrays of tables keep their newest element in front, because that is the one
that further lines add to.

All additions go through `descend`, which walks a path of names down from a table, making the
missing tables on the way, and lets an action change the table at its end. Nothing is changed when a
path is blocked or the action refuses.
-/

namespace CatalogViews.Toml

/-- How a table came about. -/
inductive Origin where
  /-- By a header of its own, or as a closed table between braces. -/
  | header
  /-- On the way to the table of a header. -/
  | implied
  /-- On the way to the value of a dotted key. -/
  | dotted
deriving Repr, DecidableEq

/-- An entry of a table under construction. -/
inductive Item where
  | value (node : Node)
  | table (origin : Origin) (entries : List (String × Item))
  /-- An array of tables that headers made, the newest in front. -/
  | tables (elements : List (List (String × Item)))

/-- A table under construction. -/
abbrev Entries := List (String × Item)

/-- A key: the names of the tables on the way and the name of the entry. -/
structure Key where
  path : List String
  name : String
deriving Repr, DecidableEq

/-- The value of each item of a table. -/
def Item.toNode : Item → Node
  | .value node => node
  | .table _ entries => .table (nodes entries)
  | .tables elements => .list (tableNodes elements).reverse
where
  /-- The values of the entries of a table. -/
  nodes : List (String × Item) → List (String × Node)
    | [] => []
    | (name, item) :: entries => (name, item.toNode) :: nodes entries
  tableNodes : List (List (String × Item)) → List Node
    | [] => []
    | entries :: elements => .table (nodes entries) :: tableNodes elements

namespace Entries

/-- The value of a table. -/
def toNode (entries : Entries) : Node :=
  (Item.table .header entries).toNode

/-- Changes the entry of a name, which may be missing. -/
def alter (name : String) (change : Option Item → Option Item) : Entries → Option Entries
  | [] => (change none).map fun item => [(name, item)]
  | (other, item) :: entries =>
    if other = name then (change (some item)).map fun item => (name, item) :: entries
    else (alter name change entries).map ((other, item) :: ·)

def addNew (name : String) (item : Item) (entries : Entries) : Option Entries :=
  alter name (fun
    | none => some item
    | some _ => none) entries

/-- Walks down a path and changes the table at its end. The missing tables on the way are made as
tables of the origin `step`. A dotted path must not enter a table that has a header. -/
def descend (step : Origin) (action : Origin → Entries → Option Entries) :
    List String → Origin → Entries → Option Entries
  | [], origin, entries => action origin entries
  | name :: path, _, entries =>
    entries.alter name fun
      | none => (descend step action path step []).map (.table step)
      | some (.value _) => none
      | some (.table origin inner) =>
        if step = .dotted ∧ origin = .header then none
        else (descend step action path origin inner).map (.table origin)
      | some (.tables []) => none
      | some (.tables (newest :: older)) =>
        (descend step action path .header newest).map fun newest => .tables (newest :: older)

/-- Gives a key of a table a value. A key with a path ends in a table that dotted keys made. -/
def assign (key : Key) (node : Node) (origin : Origin) (entries : Entries) : Option Entries :=
  descend .dotted (fun origin entries =>
    if (origin = .dotted) ↔ key.path = [] then none else addNew key.name (.value node) entries)
    key.path origin entries

/-- Opens the table of a header, which is new or was implied by another header. -/
def openTable (key : Key) (entries : Entries) : Option Entries :=
  descend .implied (fun _ entries => entries.alter key.name fun
    | none => some (.table .header [])
    | some (.table .implied inner) => some (.table .header inner)
    | _ => none) key.path .header entries

/-- Adds an empty table to the array of tables of a header. -/
def openElement (key : Key) (entries : Entries) : Option Entries :=
  descend .implied (fun _ entries => entries.alter key.name fun
    | none => some (.tables [[]])
    | some (.tables elements) => some (.tables ([] :: elements))
    | _ => none) key.path .header entries

/-- Gives a key of the table at the end of a path of headers a value. -/
def assignAt (path : List String) (key : Key) (node : Node) (entries : Entries) :
    Option Entries :=
  descend .implied (assign key node) path .header entries

end Entries

end CatalogViews.Toml
