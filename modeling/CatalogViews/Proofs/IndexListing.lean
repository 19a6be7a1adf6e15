import CatalogViews.Proofs.Restrictions

/-!
# The indexes of a table

A call with a schema argument finds one table, and its answer about indexes is determined by that
table: `ResultTable.ReportsIndexes` says which indexes have rows, that the rows of an index stand
together in the order of its columns, what is in the cells, and how the rows are ordered.

The order of the view looks at an index before it looks at positions: first whether it is unique,
then its type, then its name. Indexes of one table have different names, so no rows of two indexes
are mixed. The type depends on whether the columns of the index are not null as the table is now.
The index has their names in the spelling of the table, so a lookup that folds case does not find
other columns.
-/

namespace CatalogViews

instance (table : Table) (name : String) : Decidable (table.Requires name) :=
  decidable_of_iff ((table.column? name).any (!·.nullable) = true)
    (by simp [Table.Requires, Option.any_eq_true])

namespace ResultTable

/-- A row reports an indexed column that has an index in the columns of its index. -/
structure ReportsIndexed (answer : ResultTable) (m : Metadata) (found : Located)
    (approximate : Bool) (index : Index) (placed : IndexedColumn × Nat) (row : Row) : Prop where
  table : answer.namesIn row =
    (some (.varchar found.schema.name), some (.varchar found.table.name))
  nonUnique : answer.cellIn? row "NON_UNIQUE" = some (.boolean (!index.unique))
  name : answer.cellIn? row "INDEX_NAME" = some (.varchar index.name)
  type : answer.cellIn? row "TYPE" = some (.smallint
    (if index.unique ∧ ∀ indexed ∈ index.columns, found.table.Requires indexed.name then
      match index.kind with
      | .hash => Metadata.hashedIndex
      | .ordered => Metadata.otherIndex
    else Metadata.statisticIndex))
  position : ∃ position : Int16,
    answer.cellIn? row "ORDINAL_POSITION" = some (.smallint position) ∧
      position.toInt = min (placed.2 + 1 : Int) 32767
  column : answer.cellIn? row "COLUMN_NAME" = some (.varchar placed.1.name)
  direction : answer.cellIn? row "ASC_OR_DESC" =
    some (.varchar (if placed.1.order = .ascending then "A" else "D"))
  cardinality : ∃ count : Int64, answer.cellIn? row "CARDINALITY" = some (.bigint count) ∧
    count.toInt = min ((if approximate then index.statistics.approximateRows
      else index.statistics.rows).toNat : Int) 9223372036854775807
  pages : if m.settings.pageSize = 0 then answer.cellIn? row "PAGES" = some .null
    else ∃ pages : Int64, answer.cellIn? row "PAGES" = some (.bigint pages) ∧
      pages.toInt = min ((index.statistics.diskBytes.toNat / m.settings.pageSize.toNat : Nat) : Int)
        9223372036854775807

/-- An answer reports the indexes of a table, only the unique ones on request. -/
structure ReportsIndexes (answer : ResultTable) (m : Metadata) (found : Located)
    (unique approximate : Bool) : Prop where
  columns : answer.columns = Metadata.indexInfoColumns
  blocks : ∃ (indexes : List Index) (block : Index → List Row),
    indexes.Perm (found.table.indexes.filter fun index =>
      !index.systemGenerated && (!unique || index.unique)) ∧
    (indexes.map (·.name)).Nodup ∧
    answer.rows = indexes.flatMap block ∧
    ∀ index ∈ indexes, List.Forall₂ (answer.ReportsIndexed m found approximate index)
      index.columns.zipIdx (block index)
  ordered : answer.rows.Pairwise fun a b => (m.collation.compareRows
    (["NON_UNIQUE", "TYPE", "INDEX_NAME", "ORDINAL_POSITION"].filterMap answer.columnIndex?)
    a b).isLE = true

end ResultTable

namespace Metadata

variable {m : Metadata} {found : Located} {index : Index} {approximate : Bool}

theorem allRequired_iff (wellFormed : found.table.WellFormed m.catalog.caseMode)
    (member : index ∈ found.table.indexes) :
    m.allRequired found.table index = true ↔
      ∀ indexed ∈ index.columns, found.table.Requires indexed.name := by
  rw [allRequired, List.all_eq_true]
  refine forall₂_congr fun indexed inIndex => ?_
  have mentioned : indexed.name ∈ found.table.mentioned := by
    refine List.mem_append_right _ (List.mem_flatMap.mpr ⟨index, member, ?_⟩)
    exact List.mem_map.mpr ⟨indexed, inIndex, rfl⟩
  obtain ⟨column, exactly, folded⟩ := wellFormed.resolves indexed.name mentioned
  simp [Table.Requires, exactly, folded]

theorem indexType_eq (wellFormed : found.table.WellFormed m.catalog.caseMode)
    (member : index ∈ found.table.indexes) :
    m.indexType found.table index =
      if index.unique ∧ ∀ indexed ∈ index.columns, found.table.Requires indexed.name then
        match index.kind with
        | .hash => hashedIndex
        | .ordered => otherIndex
      else statisticIndex := by
  simp only [← allRequired_iff wellFormed member]
  unfold indexType
  cases index.unique <;> cases m.allRequired found.table index <;> rfl

/-- The cells that an order of indexes looks at: the unique flag, the type, the name. -/
def indexKey (m : Metadata) (found : Located) (index : Index) : Row :=
  [.boolean (!index.unique), .smallint (m.indexType found.table index), .varchar index.name]

def compareIndexes (m : Metadata) (found : Located) (index other : Index) : Ordering :=
  m.collation.compareRows [0, 1, 2] (m.indexKey found index) (m.indexKey found other)

instance : Std.TransCmp (m.compareIndexes found) :=
  transCmp_comap (m.collation.compareRows [0, 1, 2]) (m.indexKey found)

theorem compareRows_indexRow (p q : Index) (column other : IndexedColumn) (i j : Nat) :
    m.collation.compareRows indexInfoOrder (m.indexRow approximate found p column i)
        (m.indexRow approximate found q other j) =
      (m.compareIndexes found p q).then
        (compare (clamp16 (i + 1 : Nat)).toInt (clamp16 (j + 1 : Nat)).toInt) := by
  simp [Collation.compareRows, indexInfoOrder, indexRow, compareIndexes, indexKey, ordinalCell,
    Collation.compareCells_smallint, Ordering.then_assoc]

/-- Indexes of different names are reported one after the other. -/
theorem mergeSort_indexRows {indexes : List Index} (names : (indexes.map (·.name)).Nodup) :
    (indexes.flatMap (m.indexRows approximate found)).mergeSort
        (m.collation.rowLE indexInfoOrder) =
      (indexes.mergeSort fun p q => (m.compareIndexes found p q).isLE).flatMap
        (m.indexRows approximate found) := by
  have differ : indexes.Pairwise fun p q => m.compareIndexes found p q ≠ .eq := by
    apply (List.pairwise_map.mp names).imp
    intro p q differ same
    exact differ (m.collation.text_eq_of_compareRows same 2 (by decide) rfl rfl)
  have increases (i j : Nat) (before : i < j) :
      (clamp16 (i + 1 : Nat)).toInt ≤ (clamp16 (j + 1 : Nat)).toInt := by
    rw [toInt_clamp16, toInt_clamp16]
    omega
  exact mergeSort_numbered (m.compareIndexes found) increases
    (fun p q => compareRows_indexRow p q) differ

theorem pagesCell_cases (pageSize bytes : UInt64) :
    if pageSize = 0 then some (pagesCell pageSize bytes) = some .null
    else ∃ pages : Int64, some (pagesCell pageSize bytes) = some (.bigint pages) ∧
      pages.toInt = min ((bytes.toNat / pageSize.toNat : Nat) : Int) 9223372036854775807 := by
  have none : pageSize.toNat = 0 ↔ pageSize = 0 := by
    rw [← UInt64.toNat_inj, UInt64.toNat_zero]
  simp only [pagesCell, none]
  split
  · rfl
  · exact ⟨_, rfl, by rw [toInt_clamp64, UInt64.toNat_div]⟩

theorem reportsIndexed_indexRow {answer : ResultTable} (made : answer.columns = indexInfoColumns)
    (wellFormed : found.table.WellFormed m.catalog.caseMode)
    (member : index ∈ found.table.indexes) (column : IndexedColumn) (place : Nat) :
    answer.ReportsIndexed m found approximate index (column, place)
      (m.indexRow approximate found index column place) := by
  have position : (clamp16 (place + 1 : Nat)).toInt = min ((place : Int) + 1) 32767 := by
    rw [toInt_clamp16, Int.natCast_add, Int.natCast_one]
  constructor
  case table =>
    rw [ResultTable.namesIn, ResultTable.cellIn?_of_columns made,
      ResultTable.cellIn?_of_columns made]
    rfl
  case type =>
    rw [ResultTable.cellIn?_of_columns made, ← indexType_eq wellFormed member]
    rfl
  case position =>
    rw [ResultTable.cellIn?_of_columns made]
    exact ⟨_, rfl, position⟩
  case direction =>
    rw [ResultTable.cellIn?_of_columns made]
    have word : directionText column.order = if column.order = .ascending then "A" else "D" := by
      cases column.order <;> rfl
    exact congrArg (some <| Value.varchar ·) word
  case cardinality =>
    rw [ResultTable.cellIn?_of_columns made]
    exact ⟨_, rfl, toInt_clamp64 _⟩
  case pages =>
    rw [ResultTable.cellIn?_of_columns made]
    exact pagesCell_cases m.settings.pageSize index.statistics.diskBytes
  all_goals
    rw [ResultTable.cellIn?_of_columns made]
    rfl

/-- With a schema argument, an answer about indexes reports those of the visible table that the name
means. Tables that are created without constraints and indexes are well-formed, whatever follows. -/
theorem indexInfo_exact (reached : m.catalog.Reached fun mode table => table.WellFormed mode)
    {catalog : Option String} {schema name : String} {unique : Bool} {answer : ResultTable}
    (answered : m.indexInfo catalog (some schema) (some name) unique approximate = .ok answer)
    (selected : m.catalog.isSelectedBy catalog = true)
    (resolves : found ∈ m.findTables (some schema) name) :
    answer.ReportsIndexes m found unique approximate := by
  have wellFormed := wellFormed_of_mem_findTables reached resolves
  obtain ⟨_, ⟨⟩, -, answered⟩ := indexInfo_eq_ok_iff.mp answered
  rw [if_pos selected, indexesFor, findTables_eq_singleton resolves, List.flatMap_singleton,
    List.flatMap_map] at answered
  let due := found.table.indexes.filter fun index =>
    index.isMaterialized && (!unique || index.unique)
  have order := List.mergeSort_perm due fun p q => (m.compareIndexes found p q).isLE
  have names : (due.map (·.name)).Nodup :=
    (List.filter_sublist.map _).nodup wellFormed.indexNames_nodup
  rw [← answered]
  refine ⟨rfl, ⟨_, m.indexRows approximate found, order, ?_, mergeSort_indexRows names, ?_⟩, ?_⟩
  · exact (order.map _).nodup_iff.mpr names
  · intro index member
    have owned := (List.mem_filter.mp (order.mem_iff.mp member)).1
    rw [indexRows, List.forall₂_map_right_iff, List.forall₂_same]
    intro placed _
    exact reportsIndexed_indexRow rfl wellFormed owned placed.1 placed.2
  · exact List.pairwise_mergeSort (m.collation.rowLE_trans _) (m.collation.rowLE_total _) _

/-- The table is named by a synonym. Its primary key has made a column of the unique index not null;
the index that the engine made by itself has no rows. -/
theorem indexInfo_exact_of_synonym :
    let history : List Operation :=
      [.createSchema "S",
        .createTable {
          name := "T"
          columns := [{ name := "A", type := .integer }, { name := "B", type := .date }] },
        .createSynonym "S" ⟨"Y", "PUBLIC", "T"⟩,
        .addIndex "PUBLIC" {
          name := "J", table := "t", kind := .hash, columns := [{ name := "a" }], unique := true
          statistics := { rows := 9223372036854775808, diskBytes := 8191 } },
        .addIndex "PUBLIC" {
          name := "I", table := "T"
          columns := [{ name := "B", order := .descending }, { name := "A" }] },
        .addIndex "PUBLIC" {
          name := "H", table := "T", columns := [{ name := "A" }], systemGenerated := true },
        .setPrimaryKey "PUBLIC" "T" ⟨"K", ["A"]⟩]
    let m : Metadata := .ofCatalog ((Catalog.started "C" .insensitive).after history) {} {}
    ∃ found answer, m.findTables (some "S") "y" = [found] ∧
      found.table.indexes.map (·.name) = ["J", "I", "H"] ∧ found.table.Requires "A" ∧
      m.indexInfo none (some "S") (some "y") false false = .ok answer ∧
      answer.ReportsIndexes m found false false := by
  intro history m
  have reached : m.catalog.Reached fun mode table => table.WellFormed mode := by
    refine (Catalog.Reached.start "C" .insensitive).after history ?_
    simp [history, Operation.keepsCaseMode, Operation.newTable?, Table.WellFormed.of_bare]
  obtain ⟨found, single⟩ : ∃ found, m.findTables (some "S") "y" = [found] :=
    List.length_eq_one_iff.mp (by decide +kernel)
  have facts : ∀ located ∈ m.findTables (some "S") "y",
      located.table.indexes.map (·.name) = ["J", "I", "H"] ∧ located.table.Requires "A" := by
    decide +kernel
  have resolves : found ∈ m.findTables (some "S") "y" := by
    rw [single]
    exact List.mem_singleton_self found
  have answered : ∃ answer, m.indexInfo none (some "S") (some "y") false false = .ok answer :=
    ⟨_, indexInfo_eq_ok_iff.mpr ⟨"y", rfl, rfl, rfl⟩⟩
  obtain ⟨answer, answered⟩ := answered
  exact ⟨found, answer, single, (facts found resolves).1, (facts found resolves).2, answered,
    indexInfo_exact reached answered rfl resolves⟩

end Metadata

end CatalogViews
