import CatalogViews.Metadata.Indexes
import CatalogViews.Proofs.ColumnListing
import CatalogViews.Proofs.ViewFailures

/-!
# Narrower questions

Some arguments of a view narrow what it lists: a list of types, a pattern, the flag for unique
indexes. The view leaves objects out before it makes rows of the others and sorts the rows.
`ResultTable.IsPart` says what comes of this: the answer is that of the wider question without the
rows whose cell in one column does not pass, and the other rows keep their order.

This takes two facts. All rows that are made of one object have the same cell in the column that the
argument is about, and a stable sort does not care whether rows are left out before or after it.
Nothing is assumed of the catalog, where names may even repeat.
-/

namespace CatalogViews

/-- A cell shows a type that a list of types asks for. -/
def ShowsType (types : List String) (cell : Option Value) : Prop :=
  ∃ type, cell = some (.varchar type) ∧
    (type ∈ types ∨ type = "BASE TABLE" ∧ "TABLE" ∈ types)

/-- A cell shows a name that matches a pattern text. -/
def Metadata.ShowsMatch (m : Metadata) (source : String) (cell : Option Value) : Prop :=
  ∃ name, cell = some (.varchar name) ∧ m.Matches source name

namespace ResultTable

/-- The rows of another table whose cell in the column of that name passes, in their order. -/
def IsPart (part whole : ResultTable) (name : String) (passes : Option Value → Prop) : Prop :=
  part.columns = whole.columns ∧ ∃ test : Row → Bool,
    (∀ row ∈ whole.rows, test row = true ↔ passes (whole.cellIn? row name)) ∧
      part.rows = whole.rows.filter test

variable {columns : List ResultColumn} {name : String} {passes : Option Value → Prop}

theorem isPart_empty : (empty columns).IsPart (empty columns) name passes := by
  refine ⟨rfl, fun _ => true, fun row member => ?_, rfl⟩
  cases member

/-- Blocks of rows are left out before the sort, where every row of a block tells whether the block
passes. -/
theorem isPart_sortRows {β : Type} {blocks : List β} {rows : β → List Row} {kept : β → Bool}
    (order : List Nat) (collation : Collation)
    (tells : ∀ block ∈ blocks, ∀ row ∈ rows block,
      kept block = true ↔ passes ((empty columns).cellIn? row name)) :
    ((mk columns ((blocks.filter kept).flatMap rows)).sortRows order collation).IsPart
      ((mk columns (blocks.flatMap rows)).sortRows order collation) name passes := by
  classical
  refine ⟨rfl, fun row => passes ((empty columns).cellIn? row name), fun row _ => ?_, ?_⟩
  · exact decide_eq_true_iff
  · simp only [sortRows]
    rw [filter_mergeSort (collation.rowLE_trans order) (collation.rowLE_total order)]
    congr 1
    refine (filter_flatMap_of_forall fun block listed row member => ?_).symm
    rw [Bool.eq_iff_iff, decide_eq_true_iff, tells block listed row member]

end ResultTable

namespace Metadata

variable {m : Metadata} {catalog schema table column schema' table' : Option String}
  {types : Option (List String)} {source name : String} {schemaLike tableLike : Option LikePattern}
  {keeps : Schema × Entry → Prop} {passes : Option Value → Prop} {answer whole : ResultTable}

theorem entries_some (catalog : Catalog) (schema : Schema) (pattern : LikePattern) :
    catalog.entries schema (some pattern) =
      (catalog.entries schema none).filter (pattern.isMatch ·.name) := by
  have targets (synonym : Synonym) :
      ((catalog.target? synonym).map fun found => Entry.synonym synonym found.table).filter
          (pattern.isMatch ·.name) =
        if pattern.isMatch synonym.name then
          (catalog.target? synonym).map fun found => .synonym synonym found.table
        else none := by
    cases catalog.target? synonym with
    | none => simp
    | some found =>
      simp only [Option.map_some, Option.filter, Entry.name]
      rfl
  simp only [Catalog.entries, LikePattern.accepts, List.filter_append, List.filter_map,
    List.filter_true, List.filterMap_filter, List.filter_filterMap, targets]
  rfl

theorem listed_schema {pattern : LikePattern} (named : pattern.source ≠ "") :
    m.listed (some pattern) tableLike =
      (m.listed none tableLike).filter (pattern.isMatch ·.1.name) := by
  have notEmpty : pattern.source.isEmpty = false := by simpa using named
  simp only [listed, Catalog.schemasLike, notEmpty, Bool.false_eq_true, if_false]
  refine (filter_flatMap_of_forall fun schema _ p member => ?_).symm
  obtain ⟨entry, -, made⟩ := List.mem_map.mp member
  rw [← made]

theorem listed_table (pattern : LikePattern) :
    m.listed schemaLike (some pattern) =
      (m.listed schemaLike none).filter (pattern.isMatch ·.2.name) := by
  simp only [listed, List.filter_flatMap, List.filter_map, entries_some, List.filter_filter,
    Function.comp_def, Bool.and_comm]

/-- Other patterns select those of the listed entries that pass. -/
def Narrows (m : Metadata) (schema table schema' table' : Option String)
    (keeps : Schema × Entry → Prop) : Prop :=
  ∀ schemaLike tableLike, m.like? schema = .ok schemaLike → m.like? table = .ok tableLike →
    ∃ schemaLike', m.like? schema' = .ok schemaLike' ∧
      ∃ tableLike', m.like? table' = .ok tableLike' ∧
        ∃ kept : Schema × Entry → Bool, (∀ p, kept p = true ↔ keeps p) ∧
          m.listed schemaLike' tableLike' = (m.listed schemaLike tableLike).filter kept

theorem exists_pattern (wellFormed : ¬m.Malformed source) :
    ∃ pattern, m.like? (some source) = .ok (some pattern) ∧ m.CompilesTo source pattern := by
  have reads : ∀ given ∈ some source, ¬m.Malformed given := by simpa using wellFormed
  obtain ⟨pattern, made, compiled⟩ := like?_of_reads reads
  cases compiled with
  | some same => exact ⟨_, made, same⟩

theorem narrows_schema (table : Option String) (named : source ≠ "")
    (wellFormed : ¬m.Malformed source) :
    m.Narrows none table (some source) table fun p => m.Matches source p.1.name := by
  intro schemaLike tableLike absent tableOk
  cases absent
  obtain ⟨pattern, made, compiled⟩ := exists_pattern wellFormed
  refine ⟨_, made, tableLike, tableOk, _, fun p => compiled.isMatch_iff p.1.name, ?_⟩
  exact listed_schema (compiled.source_eq ▸ named)

theorem narrows_table (schema : Option String) (wellFormed : ¬m.Malformed source) :
    m.Narrows schema none schema (some source) fun p => m.Matches source p.2.name := by
  intro schemaLike tableLike schemaOk absent
  cases absent
  obtain ⟨pattern, made, compiled⟩ := exists_pattern wellFormed
  exact ⟨schemaLike, schemaOk, _, made, _, fun p => compiled.isMatch_iff p.2.name,
    listed_table pattern⟩

theorem tables_eq_ok_iff :
    m.tables catalog schema table types = .ok answer ↔ m.session.closed = false ∧
      if m.catalog.isSelectedBy catalog && types.map acceptedTypes != some [] then
        ∃ schemaLike, m.like? schema = .ok schemaLike ∧
          ∃ tableLike, m.like? table = .ok tableLike ∧
            m.listingOf (m.tableEntries schemaLike tableLike (types.map acceptedTypes)) = answer
      else .empty tablesColumns = answer := by
  unfold tables
  rw [checked_eq_ok_iff]
  refine and_congr_right fun _ => ?_
  by_cases selected : m.catalog.isSelectedBy catalog = true
  · by_cases nothing : types.map acceptedTypes = some []
    · simp [selected, nothing, pure, Except.pure]
    · have known : (types.map acceptedTypes == some []) = false := by simpa using nothing
      simp only [selected, bne, known, Bool.not_false, Bool.and_true, if_true, Bool.false_eq_true,
        if_false, flatMap_tableRows, bind_eq_ok_iff, pure, Except.pure, Except.ok.injEq, listingOf]
  · simp [selected]

theorem isPart_listingOf {entries : List (Schema × Entry)} {kept : Schema × Entry → Bool}
    (tells : ∀ p ∈ entries, kept p = true ↔
      passes ((ResultTable.empty tablesColumns).cellIn? (m.tableRow p.1 p.2) name)) :
    (m.listingOf (entries.filter kept)).IsPart (m.listingOf entries) name passes := by
  rw [listingOf, listingOf, List.map_eq_flatMap, List.map_eq_flatMap]
  refine ResultTable.isPart_sortRows _ _ fun p listed row member => ?_
  rw [List.mem_singleton.mp member]
  exact tells p listed

theorem isPart_tables (narrows : m.Narrows schema table schema' table' keeps)
    (tells : ∀ p, keeps p ↔
      passes ((ResultTable.empty tablesColumns).cellIn? (m.tableRow p.1 p.2) name))
    (answered : m.tables catalog schema table types = .ok whole) :
    ∃ part, m.tables catalog schema' table' types = .ok part ∧ part.IsPart whole name passes := by
  obtain ⟨opened, answered⟩ := tables_eq_ok_iff.mp answered
  simp only [tables_eq_ok_iff, opened, true_and]
  split_ifs at answered ⊢
  · obtain ⟨schemaLike, schemaOk, tableLike, tableOk, rfl⟩ := answered
    obtain ⟨schemaLike', schemaOk', tableLike', tableOk', kept, kept_iff, fewer⟩ :=
      narrows schemaLike tableLike schemaOk tableOk
    refine ⟨_, ⟨schemaLike', schemaOk', tableLike', tableOk', rfl⟩, ?_⟩
    have same : m.tableEntries schemaLike' tableLike' (types.map acceptedTypes) =
        (m.tableEntries schemaLike tableLike (types.map acceptedTypes)).filter kept := by
      simp only [tableEntries, fewer, List.filter_filter, Bool.and_comm]
    rw [same]
    exact isPart_listingOf fun p _ => (kept_iff p).trans (tells p)
  · rw [← answered]
    exact ⟨_, rfl, ResultTable.isPart_empty⟩

/-- Where the types are known, the entries of the others are left out; where none is known, that is
all of them. -/
theorem isPart_tables_types (types : List String)
    (answered : m.tables catalog schema table none = .ok whole) :
    ∃ part, m.tables catalog schema table (some types) = .ok part ∧
      part.IsPart whole "TABLE_TYPE" (ShowsType types) := by
  obtain ⟨opened, answered⟩ := tables_eq_ok_iff.mp answered
  by_cases selected : m.catalog.isSelectedBy catalog = true
  · simp only [selected, Option.map_none, Bool.true_and, bne_iff_ne, ne_eq, reduceCtorEq,
      not_false_eq_true, if_true] at answered
    obtain ⟨schemaLike, schemaOk, tableLike, tableOk, rfl⟩ := answered
    refine ⟨_, tables_eq_ok (some types) opened selected schemaOk tableOk, ?_⟩
    rw [tableEntries_none]
    refine isPart_listingOf fun p _ => ?_
    have shown : (ResultTable.empty tablesColumns).cellIn? (m.tableRow p.1 p.2) "TABLE_TYPE" =
        some (.varchar (entryType p.2)) := rfl
    rw [accepted_iff]
    simp [ShowsType, shown]
  · rw [if_neg (by simp [selected])] at answered
    rw [← answered]
    refine ⟨_, tables_eq_ok_iff.mpr ⟨opened, ?_⟩, ResultTable.isPart_empty⟩
    rw [if_neg (by simp [selected])]

theorem isPart_columns (narrows : m.Narrows schema table schema' table' keeps)
    (tells : ∀ p column index, keeps p ↔ passes ((ResultTable.empty columnsColumns).cellIn?
      (m.columnRow p.1.name p.2.name column index) name))
    (answered : m.columns catalog schema table column = .ok whole) :
    ∃ part, m.columns catalog schema' table' column = .ok part ∧ part.IsPart whole name passes := by
  obtain ⟨opened, answered⟩ := columns_eq_ok_iff.mp answered
  simp only [columns_eq_ok_iff, opened, true_and]
  split_ifs at answered ⊢
  · obtain ⟨schemaLike, schemaOk, tableLike, tableOk, columnLike, columnOk, rfl⟩ := answered
    obtain ⟨schemaLike', schemaOk', tableLike', tableOk', kept, kept_iff, fewer⟩ :=
      narrows schemaLike tableLike schemaOk tableOk
    refine ⟨_, ⟨schemaLike', schemaOk', tableLike', tableOk', columnLike, columnOk, rfl⟩, ?_⟩
    rw [fewer]
    refine ResultTable.isPart_sortRows _ _ fun p _ row member => ?_
    obtain ⟨⟨column, index⟩, -, made⟩ := List.mem_map.mp member
    rw [← made, kept_iff]
    exact tells p column index
  · rw [← answered]
    exact ⟨_, rfl, ResultTable.isPart_empty⟩

theorem isPart_columns_pattern (wellFormed : ¬m.Malformed source)
    (answered : m.columns catalog schema table none = .ok whole) :
    ∃ part, m.columns catalog schema table (some source) = .ok part ∧
      part.IsPart whole "COLUMN_NAME" (m.ShowsMatch source) := by
  obtain ⟨opened, answered⟩ := columns_eq_ok_iff.mp answered
  simp only [columns_eq_ok_iff, opened, true_and]
  split_ifs at answered ⊢
  · obtain ⟨schemaLike, schemaOk, tableLike, tableOk, columnLike, absent, rfl⟩ := answered
    cases absent
    obtain ⟨pattern, made, compiled⟩ := exists_pattern wellFormed
    refine ⟨_, ⟨schemaLike, schemaOk, tableLike, tableOk, _, made, rfl⟩, rfl, _, ?_,
      rows_columnsOf_some pattern _⟩
    intro row member
    exact showsAccepted_iff compiled member
  · rw [← answered]
    exact ⟨_, rfl, ResultTable.isPart_empty⟩

/-- The indexes that are reported, with their tables. -/
def indexesFor (m : Metadata) (schema : Option String) (name : String) (unique : Bool) :
    List (Located × Index) :=
  (m.findTables schema name).flatMap fun found =>
    (found.table.indexes.filter fun index =>
      index.isMaterialized && (!unique || index.unique)).map (found, ·)

theorem indexesFor_true (m : Metadata) (schema : Option String) (name : String) :
    m.indexesFor schema name true = (m.indexesFor schema name false).filter (·.2.unique) := by
  simp only [indexesFor, List.filter_flatMap, List.filter_map, List.filter_filter,
    Function.comp_def, Bool.not_true, Bool.not_false, Bool.false_or, Bool.true_or, Bool.true_and,
    Bool.and_comm]

theorem indexInfo_eq_ok_iff {unique approximate : Bool} :
    m.indexInfo catalog schema table unique approximate = .ok answer ↔
      ∃ name, table = some name ∧ m.session.closed = false ∧
        if m.catalog.isSelectedBy catalog then
          (ResultTable.mk indexInfoColumns ((m.indexesFor schema name unique).flatMap fun p =>
            m.indexRows approximate p.1 p.2)).sortRows indexInfoOrder m.collation = answer
        else .empty indexInfoColumns = answer := by
  unfold indexInfo
  rw [bind_eq_ok_iff]
  simp only [required_eq_ok_iff]
  refine exists_congr fun name => and_congr_right fun _ => checked_eq_ok_iff.trans ?_
  simp only [pure, Except.pure, Except.ok.injEq, indexesFor, List.flatMap_assoc, List.flatMap_map]

theorem isPart_indexInfo_unique {approximate : Bool}
    (answered : m.indexInfo catalog schema table false approximate = .ok whole) :
    ∃ part, m.indexInfo catalog schema table true approximate = .ok part ∧
      part.IsPart whole "NON_UNIQUE" (· = some (.boolean false)) := by
  obtain ⟨name, named, opened, answered⟩ := indexInfo_eq_ok_iff.mp answered
  simp only [indexInfo_eq_ok_iff, named, Option.some.injEq, exists_eq_left', opened, true_and]
  split_ifs at answered ⊢
  · refine ⟨_, rfl, ?_⟩
    rw [← answered, indexesFor_true]
    refine ResultTable.isPart_sortRows _ _ fun p _ row member => ?_
    obtain ⟨⟨column, position⟩, -, made⟩ := List.mem_map.mp member
    have shown : (ResultTable.empty indexInfoColumns).cellIn? row "NON_UNIQUE" =
        some (.boolean (!p.2.unique)) := by
      rw [← made]
      rfl
    simp [shown]
  · rw [← answered]
    exact ⟨_, rfl, ResultTable.isPart_empty⟩

/-- An answer to a narrower question is part of the answer to the wider one. The empty pattern for
schemas selects the main schema and is not one that narrows. -/
structure AnswersParts (m : Metadata) : Prop where
  tables_types : ∀ catalog schema table types whole,
    m.tables catalog schema table none = .ok whole →
      ∃ part, m.tables catalog schema table (some types) = .ok part ∧
        part.IsPart whole "TABLE_TYPE" (ShowsType types)
  tables_schema : ∀ catalog source table types whole, source ≠ "" → ¬m.Malformed source →
    m.tables catalog none table types = .ok whole →
      ∃ part, m.tables catalog (some source) table types = .ok part ∧
        part.IsPart whole "TABLE_SCHEM" (m.ShowsMatch source)
  tables_table : ∀ catalog schema source types whole, ¬m.Malformed source →
    m.tables catalog schema none types = .ok whole →
      ∃ part, m.tables catalog schema (some source) types = .ok part ∧
        part.IsPart whole "TABLE_NAME" (m.ShowsMatch source)
  columns_schema : ∀ catalog source table column whole, source ≠ "" → ¬m.Malformed source →
    m.columns catalog none table column = .ok whole →
      ∃ part, m.columns catalog (some source) table column = .ok part ∧
        part.IsPart whole "TABLE_SCHEM" (m.ShowsMatch source)
  columns_table : ∀ catalog schema source column whole, ¬m.Malformed source →
    m.columns catalog schema none column = .ok whole →
      ∃ part, m.columns catalog schema (some source) column = .ok part ∧
        part.IsPart whole "TABLE_NAME" (m.ShowsMatch source)
  columns_column : ∀ catalog schema table source whole, ¬m.Malformed source →
    m.columns catalog schema table none = .ok whole →
      ∃ part, m.columns catalog schema table (some source) = .ok part ∧
        part.IsPart whole "COLUMN_NAME" (m.ShowsMatch source)
  indexInfo_unique : ∀ catalog schema table approximate whole,
    m.indexInfo catalog schema table false approximate = .ok whole →
      ∃ part, m.indexInfo catalog schema table true approximate = .ok part ∧
        part.IsPart whole "NON_UNIQUE" (· = some (.boolean false))

theorem showsMatch_iff {cell : Option Value} (shown : cell = some (.varchar name)) :
    m.ShowsMatch source cell ↔ m.Matches source name := by
  simp [ShowsMatch, shown]

/-- Of any catalog, under any collation and in any session. -/
theorem answersParts (m : Metadata) : m.AnswersParts where
  tables_types _ _ _ types _ answered := isPart_tables_types types answered
  tables_schema _ _ table _ _ named wellFormed answered :=
    isPart_tables (narrows_schema table named wellFormed)
      (fun _ => (showsMatch_iff rfl).symm) answered
  tables_table _ schema _ _ _ wellFormed answered :=
    isPart_tables (narrows_table schema wellFormed) (fun _ => (showsMatch_iff rfl).symm) answered
  columns_schema _ _ table _ _ named wellFormed answered :=
    isPart_columns (narrows_schema table named wellFormed)
      (fun _ _ _ => (showsMatch_iff rfl).symm) answered
  columns_table _ schema _ _ _ wellFormed answered :=
    isPart_columns (narrows_table schema wellFormed)
      (fun _ _ _ => (showsMatch_iff rfl).symm) answered
  columns_column _ _ _ _ _ wellFormed answered := isPart_columns_pattern wellFormed answered
  indexInfo_unique _ _ _ _ _ answered := isPart_indexInfo_unique answered

end Metadata

end CatalogViews
