import CatalogViews.Names.Collation
import CatalogViews.Value.Order

/-!
# Result tables

The answer of a view: named and typed columns, and rows of cells. Rows are sorted by the cells at
some positions, one position after another; the sort is stable. Text cells compare under a
collation, all other cells by the order of values.
-/

namespace CatalogViews

structure ResultColumn where
  name : String
  type : DataType
deriving Repr, DecidableEq

abbrev Row := List Value

structure ResultTable where
  columns : List ResultColumn
  rows : List Row
deriving Repr, DecidableEq

def Collation.compareCells (collation : Collation) (a b : Value) : Ordering :=
  match a.text?, b.text? with
  | some s, some t => collation.compare s t
  | _, _ => a.totalCompare b

/-- The order of rows by the cells at the given positions, the first difference deciding. -/
def Collation.compareRows (collation : Collation) (positions : List Nat) (a b : Row) : Ordering :=
  match positions with
  | [] => .eq
  | position :: positions =>
    (collation.compareCells (a.getD position .null) (b.getD position .null)).then
      (collation.compareRows positions a b)

/-- Whether the first row may stand before the second. -/
def Collation.rowLE (collation : Collation) (positions : List Nat) (a b : Row) : Bool :=
  (collation.compareRows positions a b).isLE

namespace ResultTable

def empty (columns : List ResultColumn) : ResultTable :=
  ⟨columns, []⟩

instance : Inhabited ResultTable := ⟨empty []⟩

def columnNames (table : ResultTable) : List String :=
  table.columns.map (·.name)

def columnIndex? (table : ResultTable) (name : String) : Option Nat :=
  table.columns.findIdx? (·.name == name)

def cell? (table : ResultTable) (row : Nat) (name : String) : Option Value := do
  let column ← table.columnIndex? name
  let cells ← table.rows[row]?
  cells[column]?

/-- The rows in the order of the cells at the given positions; rows that do not differ there keep
their order. -/
def sortRows (table : ResultTable) (positions : List Nat) (collation : Collation) : ResultTable :=
  { table with rows := table.rows.mergeSort (collation.rowLE positions) }

end ResultTable

end CatalogViews
