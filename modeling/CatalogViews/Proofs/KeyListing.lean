import CatalogViews.Proofs.ColumnListing
import CatalogViews.Proofs.FoundTables

/-!
# The columns of a primary key

Three views show the columns of a primary key. One goes by the names that the key has stored and
puts them in the order of the collation, with their places in the key beside them. One looks the
columns up by these names and leaves out what it does not find. One knows nothing of keys and shows
the column with all others of its table. `Metadata.KeyViewsAgree` says that they show the same
columns, with the same types, and that no view has lost a column or its place.

A stored name is that of a column of the table, in the spelling of the table. So both lookups of
the name end at the first column of this name, which is not null.
-/

namespace CatalogViews

/-- A scale is that of a number, which is a byte, or a constant. -/
theorem DataType.toInt_clamp16_scale (type : DataType) :
    (clamp16 type.scale.toInt).toInt = type.scale.toInt := by
  have byte : ∃ n : UInt8, type.scale = .ofNat n.toNat := by
    cases type with
    | numeric _ scale => exact ⟨scale, rfl⟩
    | decimal _ scale => exact ⟨scale, rfl⟩
    | timestamp _ => exact ⟨6, rfl⟩
    | _ => exact ⟨0, rfl⟩
  obtain ⟨n, same⟩ := byte
  have small := n.toNat_lt
  rw [same, Int32.toInt_ofNat_of_lt (by omega), toInt_clamp16]
  omega

namespace Table

variable {mode : CaseMode} {table : Table} {key : Key} {name : String}

theorem WellFormed.keyColumn (h : table.WellFormed mode) (declared : table.primaryKey = some key)
    (member : name ∈ key.columns) :
    ∃ column, table.column? name = some column ∧ table.findColumn? mode name = some column ∧
      column.nullable = false := by
  have mentioned : name ∈ table.mentioned := by
    simp only [Table.mentioned, declared, Option.toList_some, List.flatMap_singleton,
      List.mem_append]
    exact .inl (.inl (.inl member))
  obtain ⟨column, exactly, folded⟩ := h.resolves name mentioned
  obtain ⟨required, found, notNull⟩ := h.requires key declared name member
  rw [exactly] at found
  cases found
  exact ⟨column, exactly, folded, notNull⟩

theorem name_of_column? {column : Column} (found : table.column? name = some column) :
    column.name = name := by
  simpa using List.find?_some found

/-- No column of the key is lost in the lookup. -/
theorem WellFormed.map_name_keyColumns (h : table.WellFormed mode)
    (declared : table.primaryKey = some key) :
    (key.columns.filterMap (table.findColumn? mode)).map (·.name) = key.columns := by
  rw [List.map_filterMap]
  conv_rhs => rw [← List.filterMap_some (l := key.columns)]
  refine List.filterMap_congr fun name member => ?_
  obtain ⟨column, exactly, folded, -⟩ := h.keyColumn declared member
  rw [folded, Option.map_some, name_of_column? exactly]

end Table

namespace ResultTable

/-- Whether a row is about a column of that name, of a table of those names. -/
def showsColumn (table : ResultTable) (names : Option Value × Option Value) (name : Option Value)
    (row : Row) : Bool :=
  table.namesIn row == names && table.cellIn? row "COLUMN_NAME" == name

/-- A row shows the same column as the row that identifies it. -/
structure ShowsSame (best columns : ResultTable) (identifying listed : Row) : Prop where
  nullable : columns.cellIn? listed "NULLABLE" = some (.integer 0)
  type : ∀ name ∈ ["DATA_TYPE", "TYPE_NAME", "COLUMN_SIZE"], ∃ cell,
    best.cellIn? identifying name = some cell ∧ columns.cellIn? listed name = some cell
  digits : best.cellIn? identifying "DECIMAL_DIGITS" = some .null ∨
    ∃ (digits : Int16) (scale : Int32),
      best.cellIn? identifying "DECIMAL_DIGITS" = some (.smallint digits) ∧
      columns.cellIn? listed "DECIMAL_DIGITS" = some (.integer scale) ∧
      digits.toInt = scale.toInt

end ResultTable

namespace Metadata

/-- The answers about the primary key of a table, in the order of the names and as the columns that
identify a row, agree with each other and with an answer about all columns. -/
structure KeyViewsAgree (m : Metadata) (found : Located) (key : Key)
    (keys best columns : ResultTable) : Prop where
  length_eq : keys.rows.length = key.columns.length
  ordered : keys.rows.Pairwise fun a b =>
    (m.collation.compareRows (["COLUMN_NAME"].filterMap keys.columnIndex?) a b).isLE = true
  places : ∃ places : List Int16,
    keys.rows.map (keys.cellIn? · "KEY_SEQ") = places.map (some <| .smallint ·) ∧
    (places.map (·.toInt)).Perm ((List.range key.columns.length).map fun i : Nat => (i : Int) + 1)
  declaredOrder :
    (keys.sortRows (["KEY_SEQ"].filterMap keys.columnIndex?) m.collation).rows.map
      (keys.cellIn? · "COLUMN_NAME") = key.columns.map (some <| .varchar ·)
  identified : best.rows.map (best.cellIn? · "COLUMN_NAME") = key.columns.map (some <| .varchar ·)
  listed : ∀ row ∈ best.rows, ∃ listed,
    columns.rows.find? (columns.showsColumn
      (some (.varchar found.schema.name), some (.varchar found.table.name))
      (best.cellIn? row "COLUMN_NAME")) = some listed ∧
    best.ShowsSame columns row listed

variable {m : Metadata} {found : Located} {key : Key}

theorem compareRows_places (column other : String) (i j : Nat) :
    m.collation.compareRows [4] (m.primaryKeyRow found key column i)
        (m.primaryKeyRow found key other j) =
      compare (clamp16 (i + 1 : Nat)).toInt (clamp16 (j + 1 : Nat)).toInt := by
  simp [Collation.compareRows, primaryKeyRow, ordinalCell, Collation.compareCells_smallint]

theorem primaryKeyRows_of_declared (declared : found.table.primaryKey = some key) :
    m.primaryKeyRows found =
      key.columns.zipIdx.map fun (column, place) => m.primaryKeyRow found key column place := by
  rw [primaryKeyRows, declared]
  rfl

/-- Places that fit their cells put the rows back in the order of the key. -/
theorem pairwise_primaryKeyRows (declared : found.table.primaryKey = some key)
    (small : key.columns.length ≤ 32767) :
    (m.primaryKeyRows found).Pairwise fun a b => m.collation.compareRows [4] a b = .lt := by
  rw [primaryKeyRows_of_declared declared, List.pairwise_map]
  apply (pairwise_zipIdx_lt key.columns).imp_of_mem
  intro ⟨column, i⟩ ⟨other, j⟩ _ member (before : i < j)
  have inRange := (List.mem_zipIdx member).2.1
  rw [compareRows_places, Int.compare_eq_lt, toInt_clamp16, toInt_clamp16]
  omega

/-- The answer about the primary key of one table. -/
def keysOf (m : Metadata) (found : Located) : ResultTable :=
  (ResultTable.mk primaryKeysColumns (m.primaryKeyRows found)).sortRows primaryKeysOrder m.collation

theorem keysOf_rows_perm (m : Metadata) (found : Located) :
    (m.keysOf found).rows.Perm (m.primaryKeyRows found) :=
  List.mergeSort_perm _ _

/-- The places go with the names when the rows are put in the order of the names. -/
theorem exists_places (declared : found.table.primaryKey = some key)
    (small : key.columns.length ≤ 32767) :
    ∃ places : List Int16,
      (m.keysOf found).rows.map ((m.keysOf found).cellIn? · "KEY_SEQ") =
        places.map (some <| .smallint ·) ∧
      (places.map (·.toInt)).Perm
        ((List.range key.columns.length).map fun i : Nat => (i : Int) + 1) := by
  let row (placed : String × Nat) : Row := m.primaryKeyRow found key placed.1 placed.2
  let byName := key.columns.zipIdx.mergeSort fun p q =>
    m.collation.rowLE primaryKeysOrder (row p) (row q)
  have order : byName.Perm key.columns.zipIdx := List.mergeSort_perm _ _
  have rows : (m.keysOf found).rows = byName.map row := by
    simp only [keysOf, ResultTable.sortRows, primaryKeyRows_of_declared declared]
    exact (List.map_mergeSort (f := row) fun _ _ _ _ => rfl).symm
  refine ⟨byName.map fun placed => clamp16 (placed.2 + 1 : Nat), ?_, ?_⟩
  · rw [rows, List.map_map, List.map_map]
    refine List.map_congr_left fun placed _ => ?_
    exact ResultTable.cellIn?_of_columns rfl _ _
  · rw [List.map_map]
    refine (order.map _).trans (List.Perm.of_eq ?_)
    rw [List.range_eq_range', ← List.zipIdx_map_snd 0 key.columns, List.map_map]
    refine List.map_congr_left fun placed member => ?_
    have inRange := (List.mem_zipIdx member).2.1
    simp only [Function.comp_apply, toInt_clamp16]
    omega

theorem keysOf_declaredOrder (declared : found.table.primaryKey = some key)
    (small : key.columns.length ≤ 32767) :
    ((m.keysOf found).sortRows [4] m.collation).rows.map
      ((m.keysOf found).cellIn? · "COLUMN_NAME") = key.columns.map (some <| .varchar ·) := by
  have rows : ((m.keysOf found).sortRows [4] m.collation).rows = m.primaryKeyRows found :=
    mergeSort_eq_of_increasing (m.collation.compareRows [4]) (m.keysOf_rows_perm found).symm
      (pairwise_primaryKeyRows declared small)
  have names : key.columns.zipIdx.map Prod.fst = key.columns := List.zipIdx_map_fst 0 _
  rw [rows, primaryKeyRows_of_declared declared, List.map_map]
  conv_rhs => rw [← names, List.map_map]
  refine List.map_congr_left fun placed _ => ?_
  exact ResultTable.cellIn?_of_columns rfl _ _

/-- The first row of a name in the block of an entry is that of the first column of this name. -/
theorem find?_entryColumnRows (m : Metadata) {columns : ResultTable}
    (made : columns.columns = columnsColumns) (p : Schema × Entry) {name : String} {column : Column}
    (first : p.2.definition.column? name = some column) :
    ∃ index, (m.entryColumnRows none p.1 p.2).find?
        (columns.showsColumn (shownNames p) (some (.varchar name))) =
      some (m.columnRow p.1.name p.2.name column index) := by
  have all : p.2.definition.columns.zipIdx.map Prod.fst = p.2.definition.columns :=
    List.zipIdx_map_fst 0 _
  rw [Table.column?, ← all, List.find?_map, Option.map_eq_some_iff] at first
  obtain ⟨⟨column, index⟩, first, rfl⟩ := first
  have shown (placed : Column × Nat) :
      columns.cellIn? (m.columnRow p.1.name p.2.name placed.1 placed.2) "COLUMN_NAME" =
        some (.varchar placed.1.name) := by
    rw [ResultTable.cellIn?_of_columns made]
    rfl
  refine ⟨index, ?_⟩
  rw [entryColumnRows_none, List.find?_map, Option.map_eq_some_iff]
  refine ⟨(column, index), ?_, rfl⟩
  rw [← first]
  congr 1
  funext placed
  simp [ResultTable.showsColumn, shown, namesIn_columnRow made, shownNames]

theorem find?_columnRow (h : m.catalog.WellNamed) {schemaLike tableLike : Option LikePattern}
    {p : Schema × Entry} (member : p ∈ m.listed schemaLike tableLike) {name : String}
    {column : Column} (first : p.2.definition.column? name = some column) :
    let columns := m.columnsOf none (m.listed schemaLike tableLike)
    ∃ index, columns.rows.find? (columns.showsColumn (shownNames p) (some (.varchar name))) =
      some (m.columnRow p.1.name p.2.name column index) := by
  intro columns
  have made : columns.columns = columnsColumns := rfl
  obtain ⟨index, inBlock⟩ := m.find?_entryColumnRows made p first
  obtain ⟨before, after, split, others⟩ :=
    exists_block h member fun q => m.entryColumnRows none q.1 q.2
  have rows : columns.rows = _ := (mergeSort_columnRows h).trans split
  have earlier : (before.flatMap fun q => m.entryColumnRows none q.1 q.2).find?
      (columns.showsColumn (shownNames p) (some (.varchar name))) = none := by
    rw [List.find?_eq_none]
    intro row elsewhere shown
    obtain ⟨q, other, ofOther⟩ := List.mem_flatMap.mp elsewhere
    have names : columns.namesIn row = shownNames p :=
      beq_iff_eq.mp (Bool.and_eq_true_iff.mp shown).1
    rw [namesIn_of_mem rfl ofOther] at names
    exact others q (List.mem_append_left _ other) (shownNames_inj.mp names)
  refine ⟨index, ?_⟩
  rw [rows, List.find?_append, List.find?_append, earlier, inBlock]
  rfl

theorem showsSame_columnRow {best columns : ResultTable} (bestMade : best.columns = bestRowColumns)
    (made : columns.columns = columnsColumns) (schema table : String) {column : Column}
    (notNull : column.nullable = false) (index : Nat) :
    best.ShowsSame columns (bestRowRow column) (m.columnRow schema table column index) where
  nullable := by
    rw [ResultTable.cellIn?_of_columns made]
    exact congrArg (fun nullable : Bool => some (Value.integer (if nullable then 1 else 0))) notNull
  type := by
    simp only [List.forall_mem_cons, ResultTable.cellIn?_of_columns made,
      ResultTable.cellIn?_of_columns bestMade]
    exact ⟨⟨_, rfl, rfl⟩, ⟨_, rfl, rfl⟩, ⟨_, rfl, rfl⟩, fun _ other => nomatch other⟩
  digits := by
    have shown : best.cellIn? (bestRowRow column) "DECIMAL_DIGITS" =
        some (if column.type.descriptor.supportsScale then
          .smallint (clamp16 column.type.scale.toInt) else .null) := by
      rw [ResultTable.cellIn?_of_columns bestMade]
      rfl
    rw [shown, ResultTable.cellIn?_of_columns made]
    split
    · exact .inr ⟨_, _, rfl, rfl, column.type.toInt_clamp16_scale⟩
    · exact .inl rfl

theorem mem_listed_own (h : m.catalog.WellNamed) (kept : found.Kept m.catalog)
    (visible : found.table.hidden = false) :
    (found.schema, Entry.table found.table) ∈ m.listed none none := by
  have owned := Keyed.mem_values_iff.mpr ⟨found.key, kept.table⟩
  exact (mem_listed_iff h).mpr ⟨kept.schema, .table owned, rfl, by simp [Entry.isListed, visible]⟩

/-- The answer about the columns that identify a row of one table. -/
def bestOf (m : Metadata) (found : Located) : ResultTable :=
  ⟨bestRowColumns, m.bestRowRows found⟩

theorem bestRowRows_of_declared (declared : found.table.primaryKey = some key) :
    m.bestRowRows found =
      (key.columns.filterMap (found.table.findColumn? m.catalog.caseMode)).map bestRowRow := by
  rw [bestRowRows, declared]

theorem keyViewsAgree_of_kept (h : m.catalog.WellNamed)
    (wellFormed : found.table.WellFormed m.catalog.caseMode) (kept : found.Kept m.catalog)
    (visible : found.table.hidden = false) (declared : found.table.primaryKey = some key)
    (small : key.columns.length ≤ 32767) :
    m.KeyViewsAgree found key (m.keysOf found) (m.bestOf found)
      (m.columnsOf none (m.listed none none)) where
  length_eq := by
    rw [(m.keysOf_rows_perm found).length_eq, primaryKeyRows_of_declared declared, List.length_map,
      List.length_zipIdx]
  ordered := List.pairwise_mergeSort (m.collation.rowLE_trans _) (m.collation.rowLE_total _) _
  places := exists_places declared small
  declaredOrder := keysOf_declaredOrder declared small
  identified := by
    conv_rhs => rw [← wellFormed.map_name_keyColumns declared, List.map_map]
    rw [bestOf, bestRowRows_of_declared declared, List.map_map]
    refine List.map_congr_left fun column _ => ?_
    exact ResultTable.cellIn?_of_columns rfl _ _
  listed := by
    intro row member
    rw [bestOf, bestRowRows_of_declared declared] at member
    obtain ⟨column, inKey, rfl⟩ := List.mem_map.mp member
    obtain ⟨name, named, looked⟩ := List.mem_filterMap.mp inKey
    obtain ⟨same, exactly, folded, notNull⟩ := wellFormed.keyColumn declared named
    rw [looked] at folded
    cases folded
    have shown :
        (m.bestOf found).cellIn? (bestRowRow column) "COLUMN_NAME" = some (.varchar name) := by
      rw [ResultTable.cellIn?_of_columns rfl, ← Table.name_of_column? exactly]
      rfl
    obtain ⟨index, first⟩ := find?_columnRow h (mem_listed_own h kept visible) exactly
    refine ⟨m.columnRow found.schema.name found.table.name column index, ?_,
      showsSame_columnRow rfl rfl _ _ notNull index⟩
    rw [shown]
    exact first

/-- The views on the primary key of the one visible table that a name means. Tables that are created
without constraints and indexes are well-formed, whatever follows. -/
theorem keyViews_agree (reached : m.catalog.Reached fun mode table => table.WellFormed mode)
    (opened : m.session.closed = false) {catalog schema : Option String} {table : String}
    (selected : m.catalog.isSelectedBy catalog = true)
    (single : m.findTables schema table = [found]) (declared : found.table.primaryKey = some key)
    (small : key.columns.length ≤ 32767) :
    ∃ keys best columns, m.primaryKeys catalog schema (some table) = .ok keys ∧
      m.bestRow catalog schema (some table) = .ok best ∧
      m.columns none none none none = .ok columns ∧
      m.KeyViewsAgree found key keys best columns := by
  have inFound : found ∈ m.findTables schema table := by
    rw [single]
    exact List.mem_singleton_self found
  have keysOk : TableView.primaryKeys.ask m catalog schema (some table) = .ok (m.keysOf found) :=
    TableView.primaryKeys.ask_of_single rfl (fun _ => rfl) opened selected single
  have bestOk : TableView.bestRow.ask m catalog schema (some table) = .ok (m.bestOf found) :=
    (TableView.bestRow.ask_of_single rfl (fun _ => rfl) opened selected single).trans
      (congrArg Except.ok (TableView.sortRows_nil _ _))
  have columnsOk :
      m.columns none none none none = .ok (m.columnsOf none (m.listed none none)) :=
    columns_eq_ok_iff.mpr ⟨opened, none, rfl, none, rfl, none, rfl, rfl⟩
  have h := reached.wellNamed
  have kept := kept_of_mem_findTables h inFound
  have wellFormed := wellFormed_of_mem_findTables reached inFound
  have visible := (mem_findTables_iff.mp inFound).2
  exact ⟨_, _, _, keysOk, bestOk, columnsOk,
    keyViewsAgree_of_kept h wellFormed kept visible declared small⟩

/-- The order of the key is not that of the names, and a later column is the same identifier as one
of the key. -/
theorem keyViews_agree_of_folded_names :
    let history : List Operation :=
      [.createTable {
          name := "T"
          columns := [{ name := "A", type := .numeric 10 2 }, { name := "B", type := .integer },
            { name := "b", type := .date }] },
        .setPrimaryKey "public" "t" ⟨"K", ["b", "a"]⟩]
    let m : Metadata := .ofCatalog ((Catalog.started "C" .insensitive).after history) {} {}
    ∃ found keys best columns, m.findTables none "t" = [found] ∧
      m.primaryKeys none none (some "t") = .ok keys ∧ m.bestRow none none (some "t") = .ok best ∧
      m.columns none none none none = .ok columns ∧
      m.KeyViewsAgree found ⟨"K", ["B", "A"]⟩ keys best columns := by
  intro history m
  have reached : m.catalog.Reached fun mode table => table.WellFormed mode := by
    refine (Catalog.Reached.start "C" .insensitive).after history ?_
    simp [history, Operation.keepsCaseMode, Operation.newTable?, Table.WellFormed.of_bare]
  obtain ⟨found, single⟩ : ∃ found, m.findTables none "t" = [found] :=
    List.length_eq_one_iff.mp (by decide +kernel)
  have declared : ∀ located ∈ m.findTables none "t",
      located.table.primaryKey = some ⟨"K", ["B", "A"]⟩ := by
    decide +kernel
  rw [single, List.forall_mem_singleton] at declared
  have selected : m.catalog.isSelectedBy none = true := rfl
  obtain ⟨keys, best, columns, keysOk, bestOk, columnsOk, agree⟩ :=
    keyViews_agree reached rfl selected single declared (by decide)
  exact ⟨found, keys, best, columns, single, keysOk, bestOk, columnsOk, agree⟩

end Metadata

end CatalogViews
