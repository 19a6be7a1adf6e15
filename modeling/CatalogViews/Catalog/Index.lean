/-!
# Indexes

The indexes of a table with the size figures that the storage keeps about them.
-/

namespace CatalogViews

inductive IndexKind where
  | ordered
  | hash
deriving Repr, DecidableEq

inductive SortOrder where
  | ascending
  | descending
deriving Repr, DecidableEq

structure IndexedColumn where
  name : String
  order : SortOrder := .ascending
deriving Repr, DecidableEq

structure IndexStatistics where
  /-- The exact number of rows. -/
  rows : UInt64 := 0
  /-- A cheap estimate of the number of rows. -/
  approximateRows : UInt64 := 0
  diskBytes : UInt64 := 0
deriving Repr, DecidableEq

structure Index where
  name : String
  table : String
  kind : IndexKind := .ordered
  columns : List IndexedColumn
  unique : Bool := false
  /-- Whether the engine made the index by itself; such an index has no definition to report. -/
  systemGenerated : Bool := false
  statistics : IndexStatistics := {}
deriving Repr, DecidableEq

/-- Whether a statement created the index. -/
def Index.isMaterialized (index : Index) : Bool :=
  !index.systemGenerated

end CatalogViews
