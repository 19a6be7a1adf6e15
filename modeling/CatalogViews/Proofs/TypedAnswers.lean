import CatalogViews.Proofs.Restrictions

/-!
# Well-typed answers

A view adds its rows to a table one by one and then sorts them. A row must have one cell for each
column when it is added, and every position of the sort key must be that of a cell. Both can only
be seen when a row is there: the rows are put together cell by cell, far from the list of columns,
and a sort key is a list of numbers.

Each row of each view fits the columns of the view (`CatalogView.showsFitting_ask`): it has one cell
for each column, and each cell is null or of the type that the column declares. So the checked
operations `ResultTable.addRow?` and `Collation.compareRows?` never fail on the way to an answer.
Nothing is assumed of the catalog, the session or the arguments.
-/

namespace CatalogViews

/-- A cell may stand in the column. -/
def ResultColumn.Admits (column : ResultColumn) (value : Value) : Prop :=
  value = .null ∨ value.type = column.type

/-- The row has exactly one cell for each column, which may stand there. -/
def Fits (columns : List ResultColumn) (row : Row) : Prop :=
  List.Forall₂ ResultColumn.Admits columns row

theorem Fits.length_eq {columns : List ResultColumn} {row : Row} (fits : Fits columns row) :
    row.length = columns.length :=
  (List.Forall₂.length_eq fits).symm

section

variable (name : String) (column : ResultColumn)

@[simp] theorem admits_null : column.Admits .null := .inl rfl

@[simp] theorem textColumn_admits (text : String) : (textColumn name).Admits (.varchar text) :=
  .inr rfl

@[simp] theorem textColumn_admits_ofText? (text : Option String) :
    (textColumn name).Admits (.ofText? text) := by
  cases text with
  | none => exact .inl rfl
  | some text => exact .inr rfl

@[simp] theorem integerColumn_admits (n : Int32) : (integerColumn name).Admits (.integer n) :=
  .inr rfl

@[simp] theorem smallintColumn_admits (n : Int16) : (smallintColumn name).Admits (.smallint n) :=
  .inr rfl

@[simp] theorem bigintColumn_admits (n : Int64) : (bigintColumn name).Admits (.bigint n) :=
  .inr rfl

@[simp] theorem booleanColumn_admits (b : Bool) : (booleanColumn name).Admits (.boolean b) :=
  .inr rfl

theorem admits_ite {column : ResultColumn} {p : Prop} [Decidable p] {a b : Value}
    (first : column.Admits a) (second : column.Admits b) : column.Admits (if p then a else b) := by
  split
  · exact first
  · exact second

end

/-- The table with one more row, which must have a cell for each column. -/
def ResultTable.addRow? (table : ResultTable) (row : Row) : Option ResultTable :=
  if row.length = table.columns.length then some { table with rows := table.rows ++ [row] }
  else none

/-- The comparison of two rows that fails at a position without a cell. Behind the first difference
nothing is looked at. -/
def Collation.compareRows? (collation : Collation) (positions : List Nat) (a b : Row) :
    Option Ordering :=
  match positions with
  | [] => some .eq
  | position :: positions => do
    let x ← a[position]?
    let y ← b[position]?
    match collation.compareCells x y with
    | .eq => collation.compareRows? positions a b
    | difference => some difference

theorem ResultTable.foldlM_addRow? {columns : List ResultColumn} {rows : List Row}
    (fits : ∀ row ∈ rows, Fits columns row) (before : List Row) :
    rows.foldlM addRow? ⟨columns, before⟩ = some ⟨columns, before ++ rows⟩ := by
  induction rows generalizing before with
  | nil => simp
  | cons row rows ih =>
    rw [List.forall_mem_cons] at fits
    have added : addRow? ⟨columns, before⟩ row = some ⟨columns, before ++ [row]⟩ :=
      if_pos fits.1.length_eq
    rw [List.foldlM_cons, added, Option.bind_eq_bind, Option.bind_some, ih fits.2,
      List.append_assoc, List.singleton_append]

theorem Collation.compareRows?_eq_some (collation : Collation) {positions : List Nat} {a b : Row}
    (first : ∀ position ∈ positions, position < a.length)
    (second : ∀ position ∈ positions, position < b.length) :
    collation.compareRows? positions a b = some (collation.compareRows positions a b) := by
  induction positions with
  | nil => rfl
  | cons position positions ih =>
    rw [List.forall_mem_cons] at first second
    have cell := List.getElem?_eq_getElem first.1
    have cell' := List.getElem?_eq_getElem second.1
    rw [compareRows?, compareRows, ih first.2 second.2, List.getD_eq_getElem?_getD,
      List.getD_eq_getElem?_getD, cell, cell']
    simp only [Option.bind_eq_bind, Option.bind_some, Option.getD_some]
    cases collation.compareCells a[position] b[position] <;> rfl

namespace Metadata

variable (m : Metadata)

theorem fits_catalogRow : Fits catalogsColumns [m.catalogCell] := by
  simp [Fits, catalogsColumns, catalogCell]

theorem fits_schemaRow (name : String) : Fits schemasColumns [.varchar name, m.catalogCell] := by
  simp [Fits, schemasColumns, catalogCell]

theorem fits_typeRow (type : String) : Fits tableTypesColumns [.varchar type] := by
  simp [Fits, tableTypesColumns]

theorem fits_tableRow (schema : Schema) (entry : Entry) :
    Fits tablesColumns (m.tableRow schema entry) := by
  simp [Fits, tablesColumns, tableRow, catalogCell]

theorem fits_columnRow (schema table : String) (column : Column) (index : Nat) :
    Fits columnsColumns (m.columnRow schema table column index) := by
  simp [Fits, columnsColumns, columnRow, catalogCell, sizeCell, yesNoCell, admits_ite]

theorem fits_primaryKeyRow (owner : Located) (key : Key) (column : String) (place : Nat) :
    Fits primaryKeysColumns (m.primaryKeyRow owner key column place) := by
  simp [Fits, primaryKeysColumns, primaryKeyRow, catalogCell, ordinalCell]

theorem fits_bestRowRow (column : Column) : Fits bestRowColumns (bestRowRow column) := by
  simp [Fits, bestRowColumns, bestRowRow, sizeCell, admits_ite]

theorem fits_indexRow (approximate : Bool) (owner : Located) (index : Index)
    (column : IndexedColumn) (place : Nat) :
    Fits indexInfoColumns (m.indexRow approximate owner index column place) := by
  simp [Fits, indexInfoColumns, indexRow, catalogCell, ordinalCell, pagesCell, admits_ite]

theorem fits_referenceRow (r : Reference) (updateRule deleteRule : Int16) (index : Nat)
    (childColumn parentColumn : String) : Fits foreignKeysColumns
      (m.referenceRow r updateRule deleteRule index childColumn parentColumn) := by
  simp [Fits, foreignKeysColumns, referenceRow, catalogCell, ordinalCell]

theorem fits_typeInfoRow (descriptor : TypeDescriptor) :
    Fits typeInfoColumns (typeInfoRow descriptor) := by
  simp [Fits, typeInfoColumns, typeInfoRow, admits_ite]

variable {m}

theorem fits_of_mem_primaryKeyRows {found : Located} {row : Row}
    (member : row ∈ m.primaryKeyRows found) : Fits primaryKeysColumns row := by
  rw [primaryKeyRows] at member
  split at member
  · cases member
  · rename_i key _
    obtain ⟨⟨column, index⟩, -, rfl⟩ := List.mem_map.mp member
    exact m.fits_primaryKeyRow found key column index

theorem fits_of_mem_bestRowRows {found : Located} {row : Row}
    (member : row ∈ m.bestRowRows found) : Fits bestRowColumns row := by
  rw [bestRowRows] at member
  split at member
  · cases member
  · obtain ⟨column, -, rfl⟩ := List.mem_map.mp member
    exact fits_bestRowRow column

theorem fits_of_mem_indexRows {approximate : Bool} {found : Located} {index : Index} {row : Row}
    (member : row ∈ m.indexRows approximate found index) : Fits indexInfoColumns row := by
  obtain ⟨⟨column, position⟩, -, rfl⟩ := List.mem_map.mp member
  exact m.fits_indexRow approximate found index column position

theorem fits_of_mem_referenceRows {r : Reference} {row : Row}
    (member : row ∈ m.referenceRows r) : Fits foreignKeysColumns row := by
  rw [referenceRows] at member
  split at member
  · obtain ⟨⟨⟨childColumn, parentColumn⟩, index⟩, -, rfl⟩ := List.mem_map.mp member
    exact m.fits_referenceRow r _ _ index childColumn parentColumn
  · cases member

theorem fits_of_mem_entryColumnRows {columnLike : Option LikePattern} {schema : Schema}
    {entry : Entry} {row : Row} (member : row ∈ m.entryColumnRows columnLike schema entry) :
    Fits columnsColumns row := by
  obtain ⟨⟨column, index⟩, -, rfl⟩ := List.mem_map.mp member
  exact m.fits_columnRow schema.name entry.name column index

end Metadata

theorem TableView.fits_of_mem_foundRows {m : Metadata} {view : TableView} {found : Located}
    {row : Row} (member : row ∈ view.foundRows m found) : Fits view.columns row := by
  cases view with
  | primaryKeys => exact Metadata.fits_of_mem_primaryKeyRows member
  | bestRow => exact Metadata.fits_of_mem_bestRowRows member
  | indexInfo unique approximate =>
    obtain ⟨index, -, ofIndex⟩ := List.mem_flatMap.mp member
    exact Metadata.fits_of_mem_indexRows ofIndex
  | importedKeys | exportedKeys | crossReference =>
    obtain ⟨r, -, ofReference⟩ := List.mem_flatMap.mp member
    exact Metadata.fits_of_mem_referenceRows ofReference

theorem TableView.lt_of_mem_order (view : TableView) :
    ∀ position ∈ view.order, position < view.columns.length := by
  cases view with
  | primaryKeys | bestRow | importedKeys | exportedKeys | crossReference | indexInfo =>
    dsimp only [order, columns]
    decide

namespace CatalogView

/-- The positions by which a view sorts, none where it does not sort. -/
def order : CatalogView → List Nat
  | tables _ _ _ _ => Metadata.tablesOrder
  | columns _ _ _ _ => Metadata.columnsOrder
  | ofTable _ _ _ view => view.order
  | _ => []

variable {m : Metadata} {view : CatalogView} {answer : ResultTable}

theorem lt_of_mem_order : ∀ position ∈ view.order, position < view.resultColumns.length := by
  cases view with
  | catalogs | listSchemas | listTableTypes | tables | columns | typeInfo =>
    dsimp only [order, resultColumns]
    decide
  | ofTable _ _ _ view => exact view.lt_of_mem_order

/-- The answer shows some rows that fit the columns of the view, in the order of the view. -/
def ShowsFitting (m : Metadata) (view : CatalogView) (answer : ResultTable) : Prop :=
  ∃ rows, (∀ row ∈ rows, Fits view.resultColumns row) ∧
    answer = (ResultTable.mk view.resultColumns rows).sortRows view.order m.collation

theorem showsFitting_empty : view.ShowsFitting m (.empty view.resultColumns) := by
  refine ⟨[], List.forall_mem_nil _, ?_⟩
  rw [ResultTable.sortRows, List.mergeSort_nil]
  rfl

/-- A view that does not sort shows its rows as they are. -/
theorem showsFitting_unsorted {rows : List Row} (unsorted : view.order = [])
    (fits : ∀ row ∈ rows, Fits view.resultColumns row) :
    view.ShowsFitting m ⟨view.resultColumns, rows⟩ := by
  refine ⟨rows, fits, ?_⟩
  rw [unsorted, TableView.sortRows_nil]

/-- A view without arguments only looks at the session. -/
theorem showsFitting_of_checkOpen {rows : List Row} (unsorted : view.order = [])
    (fits : ∀ row ∈ rows, Fits view.resultColumns row)
    (answered : (m.checkOpen >>= fun _ => pure ⟨view.resultColumns, rows⟩) = .ok answer) :
    view.ShowsFitting m answer := by
  obtain ⟨_, -, made⟩ := bind_eq_ok_iff.mp answered
  cases made
  exact showsFitting_unsorted unsorted fits

/-- A call that names another catalog, or no type, has an answer without rows. -/
theorem showsFitting_of_checked {passed made : Prop} [Decidable passed]
    (fits : made → view.ShowsFitting m answer)
    (answered : if passed then made else .empty view.resultColumns = answer) :
    view.ShowsFitting m answer := by
  split at answered
  · exact fits answered
  · rw [← answered]
    exact showsFitting_empty

theorem showsFitting_listSchemas {catalog schema : Option String}
    (answered : m.listSchemas catalog schema = .ok answer) :
    (listSchemas catalog schema).ShowsFitting m answer := by
  refine showsFitting_of_checked (fun made => ?_) (Metadata.checked_eq_ok_iff.mp answered).2
  obtain ⟨schemaLike, -, made⟩ := bind_eq_ok_iff.mp made
  cases made
  refine showsFitting_unsorted rfl fun row member => ?_
  obtain ⟨name, -, rfl⟩ := List.mem_map.mp member
  exact m.fits_schemaRow name

theorem showsFitting_tables {catalog schema table : Option String} {types : Option (List String)}
    (answered : m.tables catalog schema table types = .ok answer) :
    (tables catalog schema table types).ShowsFitting m answer := by
  refine showsFitting_of_checked (fun made => ?_) (Metadata.tables_eq_ok_iff.mp answered).2
  obtain ⟨schemaLike, -, tableLike, -, rfl⟩ := made
  refine ⟨_, fun row member => ?_, rfl⟩
  obtain ⟨p, -, rfl⟩ := List.mem_map.mp member
  exact m.fits_tableRow p.1 p.2

theorem showsFitting_columns {catalog schema table column : Option String}
    (answered : m.columns catalog schema table column = .ok answer) :
    (columns catalog schema table column).ShowsFitting m answer := by
  refine showsFitting_of_checked (fun made => ?_) (Metadata.columns_eq_ok_iff.mp answered).2
  obtain ⟨schemaLike, -, tableLike, -, columnLike, -, rfl⟩ := made
  refine ⟨_, fun row member => ?_, rfl⟩
  obtain ⟨p, -, ofEntry⟩ := List.mem_flatMap.mp member
  exact Metadata.fits_of_mem_entryColumnRows ofEntry

/-- A call that answers has the arguments that the view requires. -/
theorem isComplete_of_ask {catalog schema table : Option String} {view : TableView}
    (answered : view.ask m catalog schema table = .ok answer) :
    view.isComplete = true ∧ ∃ name, table = some name := by
  cases view with
  | crossReference primaryCatalog primarySchema primaryTable =>
    obtain ⟨_, primary, answered⟩ := bind_eq_ok_iff.mp answered
    obtain ⟨name, foreign, -⟩ := bind_eq_ok_iff.mp answered
    rw [Metadata.required_eq_ok_iff] at primary foreign
    rw [primary]
    exact ⟨rfl, name, foreign⟩
  | primaryKeys | bestRow | importedKeys | exportedKeys | indexInfo =>
    obtain ⟨name, given, -⟩ := bind_eq_ok_iff.mp answered
    exact ⟨rfl, name, Metadata.required_eq_ok_iff.mp given⟩

theorem showsFitting_ofTable {catalog schema table : Option String} {view : TableView}
    (answered : view.ask m catalog schema table = .ok answer) :
    (ofTable catalog schema table view).ShowsFitting m answer := by
  obtain ⟨complete, name, rfl⟩ := isComplete_of_ask answered
  rw [TableView.ask_eq complete] at answered
  refine showsFitting_of_checked (fun made => ?_) (Metadata.checked_eq_ok_iff.mp answered).2
  rw [TableView.answerFor] at made
  split at made
  · cases made
    refine ⟨_, fun row member => ?_, rfl⟩
    obtain ⟨found, -, ofFound⟩ := List.mem_flatMap.mp member
    exact TableView.fits_of_mem_foundRows ofFound
  · cases made

theorem showsFitting_ask (answered : view.ask m = .ok answer) : view.ShowsFitting m answer := by
  cases view with
  | catalogs =>
    refine showsFitting_of_checkOpen rfl ?_ answered
    exact List.forall_mem_singleton.mpr m.fits_catalogRow
  | listTableTypes =>
    refine showsFitting_of_checkOpen rfl ?_ answered
    exact List.forall_mem_map.mpr fun type _ => Metadata.fits_typeRow type
  | typeInfo =>
    refine showsFitting_of_checkOpen rfl ?_ answered
    exact List.forall_mem_map.mpr fun descriptor _ => Metadata.fits_typeInfoRow descriptor
  | listSchemas => exact showsFitting_listSchemas answered
  | tables => exact showsFitting_tables answered
  | columns => exact showsFitting_columns answered
  | ofTable => exact showsFitting_ofTable answered

/-- An answer is well typed, and nothing on the way to it could fail. -/
structure AnswersTyped (m : Metadata) (view : CatalogView) (answer : ResultTable) : Prop where
  columns : answer.columns = view.resultColumns
  fits : ∀ row ∈ answer.rows, Fits view.resultColumns row
  inRange : ∀ position ∈ view.order, position < view.resultColumns.length
  sorted : ∃ rows,
    (ResultTable.mk view.resultColumns rows).sortRows view.order m.collation = answer
  /-- Whatever rows the answer is sorted from, they can be added one by one, and any two of them
  have all cells that the sort compares. -/
  checked : ∀ rows,
    (ResultTable.mk view.resultColumns rows).sortRows view.order m.collation = answer →
      rows.foldlM ResultTable.addRow? (.empty view.resultColumns) =
        some ⟨view.resultColumns, rows⟩ ∧
      ∀ a ∈ rows, ∀ b ∈ rows, m.collation.compareRows? view.order a b =
        some (m.collation.compareRows view.order a b)

/-- Of any catalog and any session, whatever the arguments. -/
theorem answersTyped (answered : view.ask m = .ok answer) : view.AnswersTyped m answer := by
  obtain ⟨rows, fits, made⟩ := showsFitting_ask answered
  have fitsAll : ∀ row ∈ answer.rows, Fits view.resultColumns row := by
    intro row member
    rw [made] at member
    exact fits row (List.mem_mergeSort.mp member)
  constructor
  case columns => rw [made, ResultTable.sortRows]
  case fits => exact fitsAll
  case inRange => exact lt_of_mem_order
  case sorted => exact ⟨rows, made.symm⟩
  case checked =>
    intro rows same
    have fitsRows : ∀ row ∈ rows, Fits view.resultColumns row := by
      intro row member
      apply fitsAll
      rw [← same]
      exact List.mem_mergeSort.mpr member
    have inRange (row : Row) (member : row ∈ rows) :
        ∀ position ∈ view.order, position < row.length := by
      rw [(fitsRows row member).length_eq]
      exact lt_of_mem_order
    constructor
    · exact ResultTable.foldlM_addRow? fitsRows []
    · intro a first b second
      exact m.collation.compareRows?_eq_some (inRange a first) (inRange b second)

/-- The index has two columns, so there are two rows to compare. -/
theorem answersTyped_indexInfo :
    let history : List Operation :=
      [.createTable {
          name := "T"
          columns := [{ name := "A", type := .integer }, { name := "B", type := .date }] },
        .addIndex "PUBLIC" {
          name := "I", table := "T", unique := true
          columns := [{ name := "B" }, { name := "A" }] }]
    let m : Metadata := .ofCatalog ((Catalog.started "C" .insensitive).after history) {} {}
    let view : CatalogView := .ofTable none none (some "t") (.indexInfo true false)
    ∃ answer, view.ask m = .ok answer ∧ answer.rows.length = 2 ∧ view.AnswersTyped m answer := by
  intro history m view
  have answered : ∃ answer, view.ask m = .ok answer :=
    ⟨_, Metadata.indexInfo_eq_ok_iff.mpr ⟨"t", rfl, rfl, rfl⟩⟩
  obtain ⟨answer, answered⟩ := answered
  refine ⟨answer, answered, ?_, answersTyped answered⟩
  obtain ⟨_, ⟨⟩, -, made⟩ := Metadata.indexInfo_eq_ok_iff.mp answered
  have selected : m.catalog.isSelectedBy none = true := rfl
  rw [if_pos selected] at made
  rw [← made, ResultTable.sortRows, List.length_mergeSort]
  decide +kernel

end CatalogView

end CatalogViews
