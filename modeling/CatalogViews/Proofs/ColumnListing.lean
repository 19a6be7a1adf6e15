import CatalogViews.Proofs.TableListing

/-!
# The columns of the listed tables

The view on columns goes through the entries that the view on tables lists, and has a block of rows
for each of them, one row for a column. Put in the order of the names of their schemas and of their
own names, the entries have their blocks in the order of the view: rows of two entries differ in
these names, and rows of one entry stand in the order of their positions, which a bound on positions
does not disturb. No two entries share both names, so a block stands where its names stand, and
nowhere else (`Metadata.columns_dense`).

A pattern for columns leaves out rows and changes none.
-/

namespace CatalogViews

namespace ResultTable

/-- The cells that name the schema and the table that a row is about. -/
def namesIn (table : ResultTable) (row : Row) : Option Value × Option Value :=
  (table.cellIn? row "TABLE_SCHEM", table.cellIn? row "TABLE_NAME")

/-- A row reports a column that has an index in its table. -/
structure ReportsColumn (table : ResultTable) (placed : Column × Nat) (row : Row) : Prop where
  name : table.cellIn? row "COLUMN_NAME" = some (.varchar placed.1.name)
  position : ∃ position : Int32,
    table.cellIn? row "ORDINAL_POSITION" = some (.integer position) ∧
      position.toInt = placed.2 + 1
  nullable : table.cellIn? row "NULLABLE" = some (.integer (if placed.1.nullable then 1 else 0))
  nullableWord :
    table.cellIn? row "IS_NULLABLE" = some (.varchar (if placed.1.nullable then "YES" else "NO"))
  autoIncrement : table.cellIn? row "IS_AUTOINCREMENT" =
    some (.varchar (if placed.1.autoIncrement then "YES" else "NO"))
  generated : table.cellIn? row "IS_GENERATEDCOLUMN" =
    some (.varchar (if placed.1.generated then "YES" else "NO"))

/-- The rows that are about a table stand together, one for each column, in the order of the
columns. -/
def HasBlock (table : ResultTable) (names : Option Value × Option Value) (columns : List Column) :
    Prop :=
  ∃ before block after, table.rows = before ++ block ++ after ∧
    (∀ row ∈ before ++ after, table.namesIn row ≠ names) ∧
    (∀ row ∈ block, table.namesIn row = names) ∧
    List.Forall₂ table.ReportsColumn columns.zipIdx block

end ResultTable

/-- The number of 32 bits that is nearest to a number. -/
theorem toInt_clamp32_eq (n : Int) :
    (clamp32 n).toInt = max (-2147483648) (min n 2147483647) := by
  have least : Int32.minValue.toInt = -2147483648 := by decide
  have greatest : Int32.maxValue.toInt = 2147483647 := by decide
  rw [clamp32]
  split
  · omega
  · split
    · omega
    · rw [Int32.toInt_ofInt_of_le (by omega) (by omega)]
      omega

theorem toInt_clamp32 (n : Nat) : (clamp32 n).toInt = min (n : Int) 2147483647 := by
  rw [toInt_clamp32_eq]
  omega

theorem toInt_clamp16 (n : Nat) : (clamp16 n).toInt = min (n : Int) 32767 := by
  have least : Int16.minValue.toInt = -32768 := by decide
  have greatest : Int16.maxValue.toInt = 32767 := by decide
  have above : ¬(n : Int) < Int16.minValue.toInt := by omega
  rw [clamp16, if_neg above]
  split
  · omega
  · rw [Int16.toInt_ofInt_of_le (by omega) (by omega)]
    omega

theorem toInt_clamp64 (n : UInt64) :
    (clamp64 n).toInt = min (n.toNat : Int) 9223372036854775807 := by
  have greatest : Int64.maxValue.toInt = 9223372036854775807 := by decide
  rw [clamp64]
  split
  · rename_i fits
    have small := Value.le_maxValue_iff.mp fits
    rw [Value.toInt_toInt64_of_lt small]
    omega
  · rename_i tooLarge
    have large := mt Value.le_maxValue_iff.mpr tooLarge
    omega

namespace Collation

variable {collation : Collation}

theorem compareCells_varchar (s t : String) :
    collation.compareCells (.varchar s) (.varchar t) = collation.compare s t := rfl

theorem compareCells_integer (i j : Int32) :
    collation.compareCells (.integer i) (.integer j) = Ord.compare i.toInt j.toInt := by
  simp [compareCells, Value.text?, Value.totalCompare, Value.compare?]

theorem compareCells_smallint (i j : Int16) :
    collation.compareCells (.smallint i) (.smallint j) = Ord.compare i.toInt j.toInt := by
  simp [compareCells, Value.text?, Value.totalCompare, Value.compare?]

end Collation

namespace Metadata

variable {m : Metadata} {schemaLike tableLike : Option LikePattern}

/-- The order of entries by the names of their schemas and by their own names. -/
def compareNames (m : Metadata) (p q : Schema × Entry) : Ordering :=
  (m.collation.compare p.1.name q.1.name).then (m.collation.compare p.2.name q.2.name)

theorem compareRows_columnRow (p q : Schema × Entry) (column other : Column) (i j : Nat) :
    m.collation.compareRows columnsOrder (m.columnRow p.1.name p.2.name column i)
        (m.columnRow q.1.name q.2.name other j) =
      (m.compareNames p q).then
        (compare (clamp32 (i + 1 : Nat)).toInt (clamp32 (j + 1 : Nat)).toInt) := by
  have same : m.collation.compareCells m.catalogCell m.catalogCell = .eq := Std.ReflCmp.compare_self
  simp [Collation.compareRows, columnsOrder, columnRow, same, Collation.compareCells_varchar,
    Collation.compareCells_integer, compareNames, Ordering.then_assoc]

instance : Std.TransCmp m.compareNames := by
  have schemas := transCmp_comap m.collation.compare fun p : Schema × Entry => p.1.name
  have entries := transCmp_comap m.collation.compare fun p : Schema × Entry => p.2.name
  exact inferInstanceAs (Std.TransCmp (compareLex _ _))

theorem compareNames_eq_eq_iff {p q : Schema × Entry} :
    m.compareNames p q = .eq ↔ (p.1.name, p.2.name) = (q.1.name, q.2.name) := by
  simp only [compareNames, Ordering.then_eq_eq, Collation.compare_eq_eq_iff, Prod.mk.injEq]

/-- The listed entries in the order of their names. -/
def listedInOrder (m : Metadata) (schemaLike tableLike : Option LikePattern) :
    List (Schema × Entry) :=
  (m.listed schemaLike tableLike).mergeSort fun p q => (m.compareNames p q).isLE

theorem listedInOrder_perm (m : Metadata) (schemaLike tableLike : Option LikePattern) :
    (m.listedInOrder schemaLike tableLike).Perm (m.listed schemaLike tableLike) :=
  List.mergeSort_perm _ _

theorem nodup_listedInOrder_names (h : m.catalog.WellNamed)
    (schemaLike tableLike : Option LikePattern) :
    ((m.listedInOrder schemaLike tableLike).map fun p => (p.1.name, p.2.name)).Nodup :=
  ((m.listedInOrder_perm schemaLike tableLike).map _).nodup_iff.mpr (nodup_listed_names h)

theorem entryColumnRows_none (schema : Schema) (entry : Entry) :
    m.entryColumnRows none schema entry = entry.definition.columns.zipIdx.map
      fun (column, index) => m.columnRow schema.name entry.name column index := by
  simp [entryColumnRows, LikePattern.accepts]

theorem entryColumnRows_none_eq_nil_iff (m : Metadata) (schema : Schema) (entry : Entry) :
    m.entryColumnRows none schema entry = [] ↔ entry.definition.columns = [] := by
  rw [entryColumnRows_none, List.map_eq_nil_iff, List.zipIdx_eq_nil_iff]

theorem mergeSort_columnRows (h : m.catalog.WellNamed) :
    ((m.listed schemaLike tableLike).flatMap fun p => m.entryColumnRows none p.1 p.2).mergeSort
        (m.collation.rowLE columnsOrder) =
      (m.listedInOrder schemaLike tableLike).flatMap fun p => m.entryColumnRows none p.1 p.2 := by
  have differ : (m.listed schemaLike tableLike).Pairwise fun p q => m.compareNames p q ≠ .eq := by
    apply (List.pairwise_map.mp (nodup_listed_names h)).imp
    intro p q differ same
    exact differ (compareNames_eq_eq_iff.mp same)
  have increases (i j : Nat) (before : i < j) :
      (clamp32 (i + 1 : Nat)).toInt ≤ (clamp32 (j + 1 : Nat)).toInt := by
    rw [toInt_clamp32, toInt_clamp32]
    omega
  simp only [entryColumnRows_none]
  exact mergeSort_numbered m.compareNames increases (fun p q => compareRows_columnRow p q) differ

/-- The block of an entry in the rows of all of them. -/
theorem exists_block (h : m.catalog.WellNamed) {p : Schema × Entry}
    (member : p ∈ m.listed schemaLike tableLike) (rows : Schema × Entry → List Row) :
    ∃ before after : List (Schema × Entry), (m.listedInOrder schemaLike tableLike).flatMap rows =
        before.flatMap rows ++ rows p ++ after.flatMap rows ∧
      ∀ q ∈ before ++ after, (q.1.name, q.2.name) ≠ (p.1.name, p.2.name) := by
  obtain ⟨before, after, split⟩ :=
    List.append_of_mem ((m.listedInOrder_perm schemaLike tableLike).mem_iff.mpr member)
  refine ⟨before, after, by simp [split], ?_⟩
  have names := nodup_listedInOrder_names h schemaLike tableLike
  rw [split, List.map_append, List.map_cons, List.nodup_middle, List.nodup_cons,
    ← List.map_append] at names
  intro q other same
  exact names.1 (List.mem_map.mpr ⟨q, other, same⟩)

/-- The names that the rows for an entry show. -/
def shownNames (p : Schema × Entry) : Option Value × Option Value :=
  (some (.varchar p.1.name), some (.varchar p.2.name))

theorem shownNames_inj {p q : Schema × Entry} :
    shownNames p = shownNames q ↔ (p.1.name, p.2.name) = (q.1.name, q.2.name) := by
  simp [shownNames]

variable {answer : ResultTable}

theorem namesIn_tableRow (made : answer.columns = tablesColumns) (p : Schema × Entry) :
    answer.namesIn (m.tableRow p.1 p.2) = shownNames p := by
  rw [ResultTable.namesIn, ResultTable.cellIn?_of_columns made, ResultTable.cellIn?_of_columns made]
  rfl

theorem namesIn_columnRow (made : answer.columns = columnsColumns) (schema table : String)
    (column : Column) (index : Nat) :
    answer.namesIn (m.columnRow schema table column index) =
      (some (.varchar schema), some (.varchar table)) := by
  rw [ResultTable.namesIn, ResultTable.cellIn?_of_columns made, ResultTable.cellIn?_of_columns made]
  rfl

theorem namesIn_of_mem (made : answer.columns = columnsColumns) {p : Schema × Entry} {row : Row}
    (member : row ∈ m.entryColumnRows none p.1 p.2) :
    answer.namesIn row = shownNames p := by
  obtain ⟨_, -, rfl⟩ := List.mem_map.mp member
  exact namesIn_columnRow made _ _ _ _

theorem reportsColumn_columnRow (made : answer.columns = columnsColumns) (schema table : String)
    (column : Column) {index : Nat} (small : index < 2147483647) :
    answer.ReportsColumn (column, index) (m.columnRow schema table column index) := by
  have position : (clamp32 (index + 1 : Nat)).toInt = index + 1 := by
    rw [toInt_clamp32]
    omega
  constructor
  case position =>
    rw [ResultTable.cellIn?_of_columns made]
    exact ⟨_, rfl, position⟩
  all_goals
    rw [ResultTable.cellIn?_of_columns made]
    rfl

/-- What the names of a listed table or synonym mean. -/
def Means (m : Metadata) (names : Option Value × Option Value) (found : Located) : Prop :=
  ∃ schema table, names = (some (.varchar schema), some (.varchar table)) ∧
    m.catalog.findTableIn? schema table = some found

theorem Means.unique {names : Option Value × Option Value} {found other : Located}
    (first : m.Means names found) (second : m.Means names other) : found = other := by
  obtain ⟨schema, table, rfl, here⟩ := first
  obtain ⟨schema', table', same, there⟩ := second
  cases same
  exact Option.some.inj (here.symm.trans there)

theorem means_of_has (h : m.catalog.WellNamed) {owner : Schema} {entry : Entry}
    (listed : owner ∈ m.catalog.schemas.values) (has : m.catalog.Has owner entry) :
    ∃ found, m.Means (some (.varchar owner.name), some (.varchar entry.name)) found ∧
      found.table = entry.definition := by
  have named : m.catalog.schema? owner.name = some owner :=
    h.schema?_eq_some_iff.mpr ⟨listed, rfl⟩
  suffices found : ∃ found, m.catalog.findTable? owner entry.name = some found ∧
      found.table = entry.definition by
    obtain ⟨found, here, same⟩ := found
    refine ⟨found, ⟨_, _, rfl, ?_⟩, same⟩
    rw [Catalog.findTableIn?, named, Option.bind_some, here]
  cases has with
  | @table table owned =>
    exact ⟨_, h.findTable?_own (h.kept_of_owned listed owned), rfl⟩
  | @synonym synonym other target owned listed' sameSchema targetOwned sameTable =>
    have stands := (Catalog.target?_table_iff h).mpr
      ⟨_, listed', sameSchema, targetOwned, sameTable⟩
    obtain ⟨found, here, same⟩ := Option.map_eq_some_iff.mp stands
    exact ⟨found, (h.findTable?_synonym listed owned).trans here, same⟩

theorem means_of_listed (h : m.catalog.WellNamed) {p : Schema × Entry}
    (member : p ∈ m.listed schemaLike tableLike) :
    ∃ found, m.Means (shownNames p) found ∧ found.table = p.2.definition := by
  obtain ⟨selected, has, -⟩ := (mem_listed_iff h).mp member
  exact means_of_has h ((Catalog.mem_schemasLike_iff h).mp selected).1 has

/-- The answer about tables that lists some entries. -/
def listingOf (m : Metadata) (entries : List (Schema × Entry)) : ResultTable :=
  (ResultTable.mk tablesColumns (entries.map fun p => m.tableRow p.1 p.2)).sortRows tablesOrder
    m.collation

/-- The answer about the columns of some entries. -/
def columnsOf (m : Metadata) (columnLike : Option LikePattern) (entries : List (Schema × Entry)) :
    ResultTable :=
  (ResultTable.mk columnsColumns (entries.flatMap fun p =>
    m.entryColumnRows columnLike p.1 p.2)).sortRows columnsOrder m.collation

theorem tables_eq_ok_listingOf {catalog schema table : Option String}
    (opened : m.session.closed = false) (selected : m.catalog.isSelectedBy catalog = true)
    (schemaOk : m.like? schema = .ok schemaLike) (tableOk : m.like? table = .ok tableLike) :
    m.tables catalog schema table none = .ok (m.listingOf (m.listed schemaLike tableLike)) := by
  rw [tables_eq_ok none opened selected schemaOk tableOk, Option.map_none, tableEntries_none]
  rfl

theorem columns_eq_ok_iff {catalog schema table column : Option String} :
    m.columns catalog schema table column = .ok answer ↔
      m.session.closed = false ∧
        if m.catalog.isSelectedBy catalog then
          ∃ schemaLike, m.like? schema = .ok schemaLike ∧
            ∃ tableLike, m.like? table = .ok tableLike ∧
              ∃ columnLike, m.like? column = .ok columnLike ∧
                m.columnsOf columnLike (m.listed schemaLike tableLike) = answer
        else .empty columnsColumns = answer := by
  unfold columns
  rw [checked_eq_ok_iff]
  simp only [flatMap_entryColumnRows, bind_eq_ok_iff, pure, Except.pure, Except.ok.injEq, columnsOf]

/-- A row shows the name of a column that a pattern accepts. -/
def showsAccepted (pattern : LikePattern) (row : Row) : Bool :=
  (row[3]?.bind Value.text?).any pattern.isMatch

theorem entryColumnRows_some (pattern : LikePattern) (schema : Schema) (entry : Entry) :
    m.entryColumnRows (some pattern) schema entry =
      (m.entryColumnRows none schema entry).filter (showsAccepted pattern) := by
  rw [entryColumnRows_none, List.filter_map]
  rfl

/-- The rows for a pattern are those without it that show an accepted name. -/
theorem rows_columnsOf_some (pattern : LikePattern) (entries : List (Schema × Entry)) :
    (m.columnsOf (some pattern) entries).rows =
      (m.columnsOf none entries).rows.filter (showsAccepted pattern) := by
  simp only [columnsOf, ResultTable.sortRows, entryColumnRows_some]
  rw [filter_mergeSort (m.collation.rowLE_trans _) (m.collation.rowLE_total _),
    List.filter_flatMap]

/-- An answer about columns has a block for each table of a listing that has columns, and no other
rows. -/
structure ReportsColumnsOf (m : Metadata) (listing answer : ResultTable) : Prop where
  names_iff : ∀ names, names ∈ answer.rows.map answer.namesIn ↔
    names ∈ listing.rows.map listing.namesIn ∧
      ∃ found, m.Means names found ∧ found.table.columns ≠ []
  hasBlock : ∀ names ∈ listing.rows.map listing.namesIn, ∃ found, m.Means names found ∧
    (found.table.columns.length < 2147483648 → answer.HasBlock names found.table.columns)

theorem reportsColumnsOf_empty (m : Metadata) (columns columns' : List ResultColumn) :
    m.ReportsColumnsOf (.empty columns) (.empty columns') where
  names_iff := by simp [ResultTable.empty]
  hasBlock := by simp [ResultTable.empty]

theorem mem_listingOf_names_iff {entries : List (Schema × Entry)}
    {names : Option Value × Option Value} :
    names ∈ (m.listingOf entries).rows.map (m.listingOf entries).namesIn ↔
      ∃ p ∈ entries, shownNames p = names := by
  simp only [listingOf, ResultTable.sortRows, List.mem_map, List.mem_mergeSort]
  constructor
  · rintro ⟨row, ⟨p, member, made⟩, shown⟩
    rw [← made, namesIn_tableRow rfl] at shown
    exact ⟨p, member, shown⟩
  · rintro ⟨p, member, named⟩
    exact ⟨_, ⟨p, member, rfl⟩, (namesIn_tableRow rfl p).trans named⟩

theorem mem_columnsOf_iff {entries : List (Schema × Entry)} {row : Row} :
    row ∈ (m.columnsOf none entries).rows ↔
      ∃ p ∈ entries, row ∈ m.entryColumnRows none p.1 p.2 := by
  simp only [columnsOf, ResultTable.sortRows, List.mem_mergeSort, List.mem_flatMap]

theorem showsAccepted_iff {source : String} {pattern : LikePattern}
    (compiled : m.CompilesTo source pattern) {entries : List (Schema × Entry)} {row : Row}
    (member : row ∈ (m.columnsOf none entries).rows) :
    showsAccepted pattern row = true ↔ ∃ name,
      (m.columnsOf none entries).cellIn? row "COLUMN_NAME" = some (.varchar name) ∧
        m.Matches source name := by
  obtain ⟨p, -, ofEntry⟩ := mem_columnsOf_iff.mp member
  obtain ⟨⟨column, index⟩, -, rfl⟩ := List.mem_map.mp ofEntry
  have shown : (m.columnsOf none entries).cellIn?
      (m.columnRow p.1.name p.2.name column index) "COLUMN_NAME" =
        some (.varchar column.name) := by
    rw [ResultTable.cellIn?_of_columns rfl]
    rfl
  have accepted : showsAccepted pattern (m.columnRow p.1.name p.2.name column index) =
      pattern.isMatch column.name := rfl
  simp only [accepted, compiled.isMatch_iff, shown, Option.some.injEq, Value.varchar.injEq,
    exists_eq_left']

theorem hasBlock_columnsOf (h : m.catalog.WellNamed) {p : Schema × Entry}
    (member : p ∈ m.listed schemaLike tableLike)
    (small : p.2.definition.columns.length < 2147483648) :
    (m.columnsOf none (m.listed schemaLike tableLike)).HasBlock (shownNames p)
      p.2.definition.columns := by
  obtain ⟨before, after, split, others⟩ :=
    exists_block h member fun p => m.entryColumnRows none p.1 p.2
  refine ⟨_, _, _, (mergeSort_columnRows h).trans split, ?_, ?_, ?_⟩
  · intro row elsewhere shown
    rw [← List.flatMap_append, List.mem_flatMap] at elsewhere
    obtain ⟨q, other, ofOther⟩ := elsewhere
    rw [namesIn_of_mem rfl ofOther] at shown
    exact others q other (shownNames_inj.mp shown)
  · intro row ofEntry
    exact namesIn_of_mem rfl ofEntry
  · rw [entryColumnRows_none, List.forall₂_map_right_iff, List.forall₂_same]
    intro ⟨column, index⟩ placed
    have inRange := (List.mem_zipIdx placed).2.1
    exact reportsColumn_columnRow rfl _ _ column (by omega)

theorem reportsColumnsOf_listed (h : m.catalog.WellNamed)
    (schemaLike tableLike : Option LikePattern) :
    m.ReportsColumnsOf (m.listingOf (m.listed schemaLike tableLike))
      (m.columnsOf none (m.listed schemaLike tableLike)) where
  names_iff := by
    intro names
    rw [mem_listingOf_names_iff, List.mem_map]
    constructor
    · intro ⟨row, inAnswer, shown⟩
      obtain ⟨p, member, ofEntry⟩ := mem_columnsOf_iff.mp inAnswer
      obtain ⟨found, means, same⟩ := means_of_listed h member
      rw [namesIn_of_mem rfl ofEntry] at shown
      refine ⟨⟨p, member, shown⟩, found, shown ▸ means, ?_⟩
      rw [same]
      exact mt (entryColumnRows_none_eq_nil_iff _ _ _).mpr (List.ne_nil_of_mem ofEntry)
    · intro ⟨⟨p, member, named⟩, found, means, columns⟩
      obtain ⟨found', means', same⟩ := means_of_listed h member
      rw [named] at means'
      rw [means.unique means', same, ne_eq,
        ← m.entryColumnRows_none_eq_nil_iff p.1] at columns
      obtain ⟨row, ofEntry⟩ := List.exists_mem_of_ne_nil _ columns
      exact ⟨row, mem_columnsOf_iff.mpr ⟨p, member, ofEntry⟩,
        (namesIn_of_mem rfl ofEntry).trans named⟩
  hasBlock := by
    intro names inListing
    obtain ⟨p, member, rfl⟩ := mem_listingOf_names_iff.mp inListing
    obtain ⟨found, means, same⟩ := means_of_listed h member
    refine ⟨found, means, fun small => ?_⟩
    rw [same] at small ⊢
    exact hasBlock_columnsOf h member small

/-- An answer about all columns has, for each table and synonym that the tables are listed with and
that has columns, the columns in a block of their own. One about the columns that match a pattern
has those of its rows that name one of these. -/
theorem columns_dense (reached : m.catalog.Reached fun _ _ => True)
    {catalog schema table : Option String}
    (answered : m.columns catalog schema table none = .ok answer) :
    ∃ listing, m.tables catalog schema table none = .ok listing ∧
      m.ReportsColumnsOf listing answer ∧
      ∀ source matching, m.columns catalog schema table (some source) = .ok matching →
        matching.columns = answer.columns ∧
        ∃ keep : Row → Bool, matching.rows = answer.rows.filter keep ∧
          ∀ row ∈ answer.rows, keep row = true ↔ ∃ name,
            answer.cellIn? row "COLUMN_NAME" = some (.varchar name) ∧ m.Matches source name := by
  have h := reached.wellNamed
  obtain ⟨opened, answered⟩ := columns_eq_ok_iff.mp answered
  by_cases selected : m.catalog.isSelectedBy catalog = true
  · rw [if_pos selected] at answered
    obtain ⟨schemaLike, schemaOk, tableLike, tableOk, columnLike, columnOk, rfl⟩ := answered
    cases columnOk
    refine ⟨_, tables_eq_ok_listingOf opened selected schemaOk tableOk,
      reportsColumnsOf_listed h schemaLike tableLike, ?_⟩
    intro source matching answered
    obtain ⟨-, answered⟩ := columns_eq_ok_iff.mp answered
    rw [if_pos selected, schemaOk, tableOk] at answered
    obtain ⟨_, ⟨⟩, _, ⟨⟩, columnLike, columnOk, rfl⟩ := answered
    cases compilesTo_of_like? columnOk with
    | @some _ pattern compiled =>
      exact ⟨rfl, showsAccepted pattern, rows_columnsOf_some pattern _,
        fun row member => showsAccepted_iff compiled member⟩
  · rw [if_neg selected] at answered
    refine ⟨.empty tablesColumns, ?_, ?_, ?_⟩
    · unfold tables
      exact checked_eq_ok_iff.mpr ⟨opened, by rw [if_neg selected]⟩
    · rw [← answered]
      exact reportsColumnsOf_empty m _ _
    · intro source matching answered'
      obtain ⟨-, answered'⟩ := columns_eq_ok_iff.mp answered'
      rw [if_neg selected] at answered'
      rw [← answered, ← answered']
      exact ⟨rfl, fun _ => true, rfl, fun row member => nomatch member⟩

/-- A synonym for a hidden table has rows, a table without columns has none. -/
theorem columns_dense_of_hidden_target :
    let columns : List Column :=
      [{ name := "B", type := .integer }, { name := "A", type := .integer, nullable := false }]
    let history : List Operation :=
      [.createSchema "S", .createTable { name := "H", hidden := true, columns },
        .createTable { name := "E", columns := [] }, .createSynonym "S" ⟨"Y", "PUBLIC", "H"⟩]
    let m : Metadata := .ofCatalog ((Catalog.started "C" .insensitive).after history) {} {}
    ∃ answer, m.columns none none none none = .ok answer ∧
      answer.HasBlock (some (.varchar "S"), some (.varchar "Y")) columns ∧
      (some (.varchar "PUBLIC"), some (.varchar "E")) ∉ answer.rows.map answer.namesIn := by
  intro columns history m
  have reached : m.catalog.Reached fun _ _ => True := by
    dsimp only [m, ofCatalog]
    refine (Catalog.Reached.start "C" .insensitive).after history ?_
    simp [history, Operation.keepsCaseMode]
  have answered : ∃ answer, m.columns none none none none = .ok answer :=
    ⟨_, columns_eq_ok_iff.mpr ⟨rfl, _, rfl, _, rfl, _, rfl, rfl⟩⟩
  obtain ⟨answer, answered⟩ := answered
  obtain ⟨listing, listed, dense, -⟩ := columns_dense reached answered
  have tables : m.tables none none none none = .ok (m.listingOf (m.listed none none)) :=
    tables_eq_ok_listingOf rfl rfl rfl rfl
  rw [tables] at listed
  cases listed
  have means (schema table : String) (columns : List Column)
      (found : (m.catalog.findTableIn? schema table).map (·.table.columns) = some columns) :
      ∃ found, m.Means (some (.varchar schema), some (.varchar table)) found ∧
        found.table.columns = columns := by
    obtain ⟨found, here, same⟩ := Option.map_eq_some_iff.mp found
    exact ⟨found, ⟨schema, table, rfl, here⟩, same⟩
  obtain ⟨hidden, meansHidden, sameHidden⟩ := means "S" "Y" columns (by decide +kernel)
  obtain ⟨empty, meansEmpty, sameEmpty⟩ := means "PUBLIC" "E" [] (by decide +kernel)
  refine ⟨answer, answered, ?_, ?_⟩
  · have inListing : ∃ p ∈ m.listed none none,
        shownNames p = (some (.varchar "S"), some (.varchar "Y")) := by
      decide +kernel
    obtain ⟨found, meansFound, block⟩ :=
      dense.hasBlock _ (mem_listingOf_names_iff.mpr inListing)
    rw [meansFound.unique meansHidden, sameHidden] at block
    exact block (by decide)
  · intro reported
    obtain ⟨-, found, meansFound, columns⟩ := (dense.names_iff _).mp reported
    rw [meansFound.unique meansEmpty] at columns
    exact columns sameEmpty

end Metadata

end CatalogViews
