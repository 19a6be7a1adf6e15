import CatalogViews.Metadata.Indexes
import CatalogViews.Metadata.PrimaryKeys
import CatalogViews.Proofs.DistinctParts
import CatalogViews.Proofs.ExactViews

/-!
# What the views of an exactly named table report

The views on keys and indexes report objects of the catalog: the columns of a primary key, foreign
keys, the columns of an index. `TableView.ReportsOnce` says of an answer that it consists of the
rows of different objects. It holds of an answer unless the search has found the same table twice
and that table has rows to report (`TableView.reportsOnce_iff`). So a call with a schema argument
reports every object once; without one, a synonym under the name of its target makes the rows of the
target appear once more.
-/

namespace CatalogViews

/-- A view that takes the exact name of a table, with the arguments that only it has. -/
inductive TableView where
  | primaryKeys
  | bestRow
  | importedKeys
  | exportedKeys
  | crossReference (primaryCatalog primarySchema primaryTable : Option String)
  | indexInfo (unique approximate : Bool)

/-- What a view reports. Places count from zero; they tell objects of the same content apart. -/
inductive ReportedObject where
  /-- A column of the primary key of a table. -/
  | keyColumn (owner : Located) (key : Key) (column : String) (place : Nat)
  /-- A foreign key, with its place among those of the child. -/
  | foreignKey (reference : Metadata.Reference) (place : Nat)
  /-- A column of an index, with the place of the index among those of the table. -/
  | indexColumn (owner : Located) (index : Index) (column : IndexedColumn) (indexPlace place : Nat)

namespace Metadata

/-- The references that a table declares, with their places. -/
def placedReferences (m : Metadata) (child : Located) : List (Reference × Nat) :=
  child.table.foreignKeys.zipIdx.filterMap fun (fk, place) =>
    (m.parentOf? child.schema fk).map fun parent => (⟨parent, child, fk⟩, place)

/-- The row of a column of a primary key. -/
def primaryKeyRow (m : Metadata) (owner : Located) (key : Key) (column : String) (place : Nat) :
    Row :=
  [m.catalogCell, .varchar owner.schema.name, .varchar owner.table.name, .varchar column,
    ordinalCell place, .varchar key.name]

/-- The row of a column of an index. -/
def indexRow (m : Metadata) (approximate : Bool) (owner : Located) (index : Index)
    (column : IndexedColumn) (place : Nat) : Row :=
  let rows := if approximate then index.statistics.approximateRows else index.statistics.rows
  [m.catalogCell, .varchar owner.schema.name, .varchar owner.table.name,
    .boolean (!index.unique), m.catalogCell, .varchar index.name,
    .smallint (m.indexType owner.table index), ordinalCell place, .varchar column.name,
    .varchar (directionText column.order), .bigint (clamp64 rows),
    pagesCell m.settings.pageSize index.statistics.diskBytes, .null]

end Metadata

namespace TableView

open Metadata

/-- The call of a view. -/
def ask (m : Metadata) (catalog schema table : Option String) :
    TableView → Except ViewError ResultTable
  | primaryKeys => m.primaryKeys catalog schema table
  | bestRow => m.bestRow catalog schema table
  | importedKeys => m.importedKeys catalog schema table
  | exportedKeys => m.exportedKeys catalog schema table
  | crossReference primaryCatalog primarySchema primaryTable =>
    m.crossReference primaryCatalog primarySchema primaryTable catalog schema table
  | indexInfo unique approximate => m.indexInfo catalog schema table unique approximate

/-- Whether the arguments select the catalog. -/
def selects (m : Metadata) (catalog : Option String) : TableView → Bool
  | crossReference primaryCatalog _ _ =>
    m.catalog.isSelectedBy primaryCatalog && m.catalog.isSelectedBy catalog
  | _ => m.catalog.isSelectedBy catalog

/-- The objects that a view reports for a table. -/
def objectsOf (m : Metadata) (found : Located) : TableView → List ReportedObject
  | primaryKeys | bestRow => found.table.primaryKey.toList.flatMap fun key =>
    key.columns.zipIdx.map fun (column, place) => .keyColumn found key column place
  | importedKeys => (m.placedReferences found).map fun (r, place) => .foreignKey r place
  | exportedKeys =>
    ((m.visibleTables.flatMap m.placedReferences).filter (·.1.parent.sameAs found)).map
      fun (r, place) => .foreignKey r place
  | crossReference _ primarySchema primaryTable =>
    ((m.placedReferences found).filter fun (r, _) =>
      primaryTable.any (m.catalog.sameIdentifier r.parent.table.name) &&
        m.selectsSchema primarySchema r.parent.schema).map fun (r, place) => .foreignKey r place
  | indexInfo unique _ =>
    (found.table.indexes.zipIdx.filter fun (index, _) =>
      index.isMaterialized && (!unique || index.unique)).flatMap fun (index, indexPlace) =>
        index.columns.zipIdx.map fun (column, place) =>
          .indexColumn found index column indexPlace place

/-- The rows that a view has for an object. -/
def rowsOf (m : Metadata) (view : TableView) : ReportedObject → List Row
  | .keyColumn owner key column place =>
    match view with
    | bestRow => (owner.table.findColumn? m.catalog.caseMode column).toList.map bestRowRow
    | _ => [m.primaryKeyRow owner key column place]
  | .foreignKey r _ => m.referenceRows r
  | .indexColumn owner index column _ place =>
    match view with
    | indexInfo _ approximate => [m.indexRow approximate owner index column place]
    | _ => []

end TableView

namespace Metadata

variable {m : Metadata}

theorem map_fst_placedReferences (child : Located) :
    (m.placedReferences child).map (·.1) = m.referencesOf child := by
  have declared : child.table.foreignKeys.zipIdx.map Prod.fst = child.table.foreignKeys :=
    List.zipIdx_map_fst 0 _
  rw [referencesOf, ← declared, List.filterMap_map, placedReferences, List.map_filterMap]
  refine List.filterMap_congr fun declaration _ => ?_
  simp [Option.map_map, Function.comp_def]

theorem mem_placedReferences {child : Located} {r : Reference} {place : Nat}
    (member : (r, place) ∈ m.placedReferences child) :
    r.child = child ∧ m.parentOf? child.schema r.fk = some r.parent := by
  obtain ⟨⟨fk, _⟩, -, made⟩ := List.mem_filterMap.mp member
  obtain ⟨parent, found, made⟩ := Option.map_eq_some_iff.mp made
  cases made
  exact ⟨rfl, found⟩

theorem nodup_placedReferences (child : Located) : (m.placedReferences child).Nodup := by
  refine (nodup_zipIdx child.table.foreignKeys).filterMap ?_
  intro ⟨fk, place⟩ ⟨fk', place'⟩ placed made made'
  obtain ⟨parent, -, rfl⟩ := Option.map_eq_some_iff.mp made
  obtain ⟨parent', -, same⟩ := Option.map_eq_some_iff.mp made'
  cases same
  rfl

theorem flatMap_placed {references : List (Reference × Nat)} {view : TableView} :
    (references.map fun (r, place) => ReportedObject.foreignKey r place).flatMap (view.rowsOf m) =
      (references.map (·.1)).flatMap m.referenceRows := by
  simp only [List.flatMap_map]
  rfl

end Metadata

namespace TableView

open Metadata

variable {m : Metadata} {catalog schema table : Option String} {answer : ResultTable}

theorem primaryKeyRows_eq (found : Located) :
    m.primaryKeyRows found = (primaryKeys.objectsOf m found).flatMap (primaryKeys.rowsOf m) := by
  cases declared : found.table.primaryKey with
  | none => simp [primaryKeyRows, objectsOf, declared]
  | some key =>
    simp only [primaryKeyRows, objectsOf, declared, Option.toList_some, List.flatMap_singleton,
      List.flatMap_map, rowsOf, primaryKeyRow]
    exact List.map_eq_flatMap

theorem bestRowRows_eq (found : Located) :
    m.bestRowRows found = (bestRow.objectsOf m found).flatMap (bestRow.rowsOf m) := by
  cases declared : found.table.primaryKey with
  | none => simp [bestRowRows, objectsOf, declared]
  | some key =>
    simp only [bestRowRows, objectsOf, declared, Option.toList_some, List.flatMap_singleton,
      List.flatMap_map, rowsOf]
    rw [flatMap_zipIdx fun column =>
        (found.table.findColumn? m.catalog.caseMode column).toList.map bestRowRow,
      List.filterMap_eq_flatMap_toList, List.map_flatMap]

theorem indexRows_eq (found : Located) (unique approximate : Bool) :
    (found.table.indexes.filter fun index =>
        index.isMaterialized && (!unique || index.unique)).flatMap (m.indexRows approximate found) =
      ((indexInfo unique approximate).objectsOf m found).flatMap
        ((indexInfo unique approximate).rowsOf m) := by
  rw [objectsOf, List.flatMap_assoc, ← flatMap_filter_zipIdx]
  refine List.flatMap_congr fun ⟨index, indexPlace⟩ _ => ?_
  simp only [indexRows, List.flatMap_map, rowsOf, indexRow]
  exact List.map_eq_flatMap

theorem importedRows_eq (found : Located) :
    (m.referencesOf found).flatMap m.referenceRows =
      (importedKeys.objectsOf m found).flatMap (importedKeys.rowsOf m) := by
  rw [objectsOf, flatMap_placed, map_fst_placedReferences]

theorem exportedRows_eq (found : Located) :
    (m.referencesTo found).flatMap m.referenceRows =
      (exportedKeys.objectsOf m found).flatMap (exportedKeys.rowsOf m) := by
  have all : (m.visibleTables.flatMap m.placedReferences).map (·.1) =
      m.visibleTables.flatMap m.referencesOf := by
    rw [List.map_flatMap]
    exact List.flatMap_congr fun child _ => map_fst_placedReferences child
  rw [objectsOf, flatMap_placed, referencesTo, ← all, List.filter_map]
  rfl

theorem crossedRows_eq (found : Located) (primaryCatalog primarySchema : Option String)
    (primaryTable : String) :
    (m.selectedReferences primarySchema primaryTable [found]).flatMap m.referenceRows =
      ((crossReference primaryCatalog primarySchema (some primaryTable)).objectsOf m found).flatMap
        ((crossReference primaryCatalog primarySchema (some primaryTable)).rowsOf m) := by
  rw [objectsOf, flatMap_placed, selectedReferences, List.flatMap_singleton,
    ← map_fst_placedReferences, List.filter_map]
  rfl

theorem perm_of_checked {selected : Bool} {columns : List ResultColumn}
    {body : Except ViewError ResultTable} {rows : List Row}
    (answered : if selected then body = .ok answer else .empty columns = answer)
    (whole : body = .ok answer → answer.rows.Perm rows) :
    answer.rows.Perm (if selected then rows else []) := by
  split at answered
  · rename_i chosen
    rw [if_pos chosen]
    exact whole answered
  · rename_i other
    cases answered
    rw [if_neg other]
    exact .refl _

theorem perm_of_referenceTable {references : List Reference} {order : List Nat}
    (answered : m.referenceTable references order = .ok answer) :
    answer.rows.Perm (references.flatMap m.referenceRows) := by
  obtain ⟨-, rfl⟩ := referenceTable_eq_ok_iff.mp answered
  exact List.mergeSort_perm _ _

/-- The rows of a successful answer, up to order, are those of the objects of the found tables. -/
theorem rows_perm_of_ask (h : m.catalog.WellNamed) {view : TableView}
    (answered : view.ask m catalog schema table = .ok answer) :
    ∃ name, table = some name ∧ answer.rows.Perm
      (if view.selects m catalog then
        (m.findTables schema name).flatMap fun found =>
          (view.objectsOf m found).flatMap (view.rowsOf m)
      else []) := by
  cases view with
  | primaryKeys =>
    unfold ask Metadata.primaryKeys at answered
    obtain ⟨name, named, answered⟩ := bind_eq_ok_iff.mp answered
    refine ⟨name, required_eq_ok_iff.mp named,
      perm_of_checked (checked_eq_ok_iff.mp answered).2 fun made => ?_⟩
    cases made
    simp only [← primaryKeyRows_eq]
    exact List.mergeSort_perm _ _
  | bestRow =>
    unfold ask Metadata.bestRow at answered
    obtain ⟨name, named, answered⟩ := bind_eq_ok_iff.mp answered
    refine ⟨name, required_eq_ok_iff.mp named,
      perm_of_checked (checked_eq_ok_iff.mp answered).2 fun made => ?_⟩
    cases made
    simp only [← bestRowRows_eq]
    exact .refl _
  | importedKeys =>
    obtain ⟨name, named, -, answered⟩ := importedKeys_eq_ok_iff.mp answered
    refine ⟨name, named, perm_of_checked answered fun made => ?_⟩
    simp only [← importedRows_eq]
    rw [← List.flatMap_assoc]
    exact perm_of_referenceTable made
  | exportedKeys =>
    obtain ⟨name, named, -, answered⟩ := (exportedKeys_eq_ok_iff h).mp answered
    refine ⟨name, named, perm_of_checked answered fun made => ?_⟩
    simp only [← exportedRows_eq]
    rw [← List.flatMap_assoc]
    exact perm_of_referenceTable made
  | crossReference primaryCatalog primarySchema primaryTable =>
    obtain ⟨primaryName, rfl, name, named, -, answered⟩ := crossReference_eq_ok_iff.mp answered
    refine ⟨name, named, perm_of_checked answered fun made => ?_⟩
    simp only [← crossedRows_eq]
    rw [← List.flatMap_assoc]
    simp only [selectedReferences, List.flatMap_singleton, ← List.filter_flatMap] at made ⊢
    exact perm_of_referenceTable made
  | indexInfo unique approximate =>
    unfold ask Metadata.indexInfo at answered
    obtain ⟨name, named, answered⟩ := bind_eq_ok_iff.mp answered
    refine ⟨name, required_eq_ok_iff.mp named,
      perm_of_checked (checked_eq_ok_iff.mp answered).2 fun made => ?_⟩
    cases made
    simp only [← indexRows_eq]
    exact List.mergeSort_perm _ _

/-- The table for which a view reports an object. -/
def subject : TableView → ReportedObject → Located
  | exportedKeys, .foreignKey r _ => r.parent
  | _, .foreignKey r _ => r.child
  | _, .keyColumn owner _ _ _ => owner
  | _, .indexColumn owner _ _ _ _ => owner

theorem subject_of_mem (h : m.catalog.WellNamed) {view : TableView} {found : Located}
    (kept : found.Kept m.catalog) {object : ReportedObject}
    (member : object ∈ view.objectsOf m found) : view.subject object = found := by
  cases view with
  | primaryKeys | bestRow =>
    obtain ⟨key, -, ofKey⟩ := List.mem_flatMap.mp member
    obtain ⟨_, -, rfl⟩ := List.mem_map.mp ofKey
    rfl
  | importedKeys =>
    obtain ⟨⟨r, place⟩, placed, rfl⟩ := List.mem_map.mp member
    exact (mem_placedReferences placed).1
  | exportedKeys =>
    obtain ⟨⟨r, place⟩, selected, rfl⟩ := List.mem_map.mp member
    obtain ⟨placed, same⟩ := List.mem_filter.mp selected
    obtain ⟨child, -, placed⟩ := List.mem_flatMap.mp placed
    have kept' : r.parent.Kept m.catalog := kept_of_parentOf? h (mem_placedReferences placed).2
    exact (kept'.sameAs_iff kept h).mp same
  | crossReference primaryCatalog primarySchema primaryTable =>
    obtain ⟨⟨r, place⟩, selected, rfl⟩ := List.mem_map.mp member
    exact (mem_placedReferences (List.mem_of_mem_filter selected)).1
  | indexInfo unique approximate =>
    obtain ⟨_, -, ofIndex⟩ := List.mem_flatMap.mp member
    obtain ⟨_, -, rfl⟩ := List.mem_map.mp ofIndex
    rfl

theorem nodup_map_foreignKey {references : List (Reference × Nat)} (nodup : references.Nodup) :
    (references.map fun (r, place) => ReportedObject.foreignKey r place).Nodup := by
  refine nodup.map ?_
  rintro ⟨r, place⟩ ⟨r', place'⟩ ⟨⟩
  rfl

theorem nodup_objectsOf (h : m.catalog.WellNamed) (view : TableView) (found : Located) :
    (view.objectsOf m found).Nodup := by
  cases view with
  | primaryKeys | bestRow =>
    simp only [objectsOf]
    cases found.table.primaryKey with
    | none => exact List.nodup_nil
    | some key =>
      rw [Option.toList_some, List.flatMap_singleton]
      refine (nodup_zipIdx key.columns).map ?_
      rintro ⟨column, place⟩ ⟨column', place'⟩ ⟨⟩
      rfl
  | importedKeys => exact nodup_map_foreignKey (nodup_placedReferences found)
  | exportedKeys =>
    refine nodup_map_foreignKey (List.Nodup.filter _ ?_)
    rw [List.nodup_flatMap]
    refine ⟨fun child _ => nodup_placedReferences child, (nodup_visibleTables h).imp ?_⟩
    intro child child' differ ⟨r, place⟩ placed placed'
    exact differ ((mem_placedReferences placed).1.symm.trans (mem_placedReferences placed').1)
  | crossReference primaryCatalog primarySchema primaryTable =>
    exact nodup_map_foreignKey ((nodup_placedReferences found).filter _)
  | indexInfo unique approximate =>
    rw [objectsOf, List.nodup_flatMap]
    constructor
    · rintro ⟨index, indexPlace⟩ -
      refine (nodup_zipIdx index.columns).map ?_
      rintro ⟨column, place⟩ ⟨column', place'⟩ ⟨⟩
      rfl
    · refine ((nodup_zipIdx found.table.indexes).filter _).imp ?_
      intro ⟨index, indexPlace⟩ ⟨index', indexPlace'⟩ differ object member member'
      obtain ⟨⟨column, place⟩, -, rfl⟩ := List.mem_map.mp member
      obtain ⟨⟨column', place'⟩, -, same⟩ := List.mem_map.mp member'
      cases same
      exact differ rfl

/-- The rows of a foreign key, as far as they tell its pairs of columns: one row for each pair, in
their order, numbered from one. -/
def NumbersPairs (fk : ForeignKey) (rows : List Row) : Prop :=
  rows.map (fun row => (row[8]?, row[7]?, row[3]?)) =
    fk.columnPairs.zipIdx.map fun ((childColumn, parentColumn), index) =>
      (some (.smallint (.ofNat (index + 1))), some (.varchar childColumn),
        some (.varchar parentColumn))

/-- The rows that an object may have in an answer. A foreign key whose pairs can be numbered has all
of them or none; the other objects have one row at most. -/
def Contributes (rows : List Row) : ReportedObject → Prop
  | .foreignKey r _ =>
    r.fk.columnPairs.length ≤ 32767 → rows = [] ∨ NumbersPairs r.fk rows
  | _ => rows.length ≤ 1

/-- An answer consists of the rows of different objects of tables that the arguments mean. -/
def ReportsOnce (m : Metadata) (schema table : Option String) (answer : ResultTable)
    (view : TableView) : Prop :=
  ∃ objects : List ReportedObject, objects.Nodup ∧
    (∀ object ∈ objects, Contributes (view.rowsOf m object) object ∧
      ∃ name, table = some name ∧ ∃ found ∈ m.findTables schema name,
        object ∈ view.objectsOf m found) ∧
    answer.rows.Perm (objects.flatMap (view.rowsOf m))

/-- The name means the same visible table in two schemas, and that table has rows to report. -/
def FindsTwice (m : Metadata) (table : Option String) (view : TableView) : Prop :=
  ∃ name, table = some name ∧
    ∃ owner ∈ m.catalog.schemas.values, ∃ other ∈ m.catalog.schemas.values, owner ≠ other ∧
      ∃ found : Located,
        m.catalog.findTable? owner name = some found ∧
        m.catalog.findTable? other name = some found ∧ found.table.hidden = false ∧
        ∃ object ∈ view.objectsOf m found, view.rowsOf m object ≠ []

theorem ordinalCell_of_lt {index : Nat} (small : index < 32767) :
    ordinalCell index = .smallint (.ofNat (index + 1)) := by
  have least : Int16.minValue.toInt = -32768 := by decide
  have greatest : Int16.maxValue.toInt = 32767 := by decide
  have above : ¬((index + 1 : Nat) : Int) < Int16.minValue.toInt := by omega
  have below : ¬Int16.maxValue.toInt < ((index + 1 : Nat) : Int) := by omega
  rw [ordinalCell, clamp16, if_neg above, if_neg below, Int16.ofInt_eq_ofNat]

theorem numbersPairs_of_coded {r : Reference} {updateRule deleteRule : Int16}
    (small : r.fk.columnPairs.length ≤ 32767) :
    NumbersPairs r.fk (r.fk.columnPairs.zipIdx.map fun ((childColumn, parentColumn), index) =>
      m.referenceRow r updateRule deleteRule index childColumn parentColumn) := by
  rw [NumbersPairs, List.map_map]
  refine List.map_congr_left fun ⟨⟨childColumn, parentColumn⟩, index⟩ member => ?_
  have inRange := (List.mem_zipIdx member).2.1
  simp only [Function.comp_apply, referenceRow, ordinalCell_of_lt (by omega : index < 32767)]
  rfl

theorem contributes_rowsOf (view : TableView) (object : ReportedObject) :
    Contributes (view.rowsOf m object) object := by
  cases object with
  | keyColumn owner key column place =>
    cases view with
    | bestRow =>
      simp only [Contributes, rowsOf, List.length_map]
      exact Option.length_toList_le
    | _ => exact Nat.le_refl 1
  | foreignKey r place =>
    intro small
    simp only [rowsOf, referenceRows]
    split
    · exact .inr (numbersPairs_of_coded small)
    · exact .inl rfl
  | indexColumn owner index column indexPlace place =>
    cases view with
    | indexInfo unique approximate => exact Nat.le_refl 1
    | _ => exact Nat.zero_le 1

theorem duplicate_findTables_iff (h : m.catalog.WellNamed) {name : String} {found : Located} :
    (m.findTables schema name).Duplicate found ↔
      schema = none ∧ ∃ owner ∈ m.catalog.schemas.values, ∃ other ∈ m.catalog.schemas.values,
        owner ≠ other ∧ m.catalog.findTable? owner name = some found ∧
        m.catalog.findTable? other name = some found ∧ found.table.hidden = false := by
  rw [findTables, List.filter_filterMap]
  cases schema with
  | none =>
    rw [Catalog.schemasNamed, duplicate_filterMap_iff h.nodup_values]
    simp only [Option.filter_eq_some_iff, Bool.not_eq_eq_eq_not, Bool.not_true, true_and]
    refine exists_congr fun owner => and_congr_right fun _ => exists_congr fun other =>
      and_congr_right fun _ => and_congr_right fun _ => ?_
    constructor
    · rintro ⟨⟨first, visible⟩, second, -⟩
      exact ⟨first, second, visible⟩
    · rintro ⟨first, second, visible⟩
      exact ⟨⟨first, visible⟩, second, visible⟩
  | some argument =>
    obtain ⟨owner, single⟩ := m.catalog.schemasNamed_eq_toList argument
    rw [single]
    cases owner with
    | none => simp [List.not_duplicate_nil]
    | some owner =>
      constructor
      · intro twice
        have two := (List.duplicate_iff_sublist.mp twice).length_le
        have one := List.length_filterMap_le
          (fun x => Option.filter (fun x => !x.table.hidden) (m.catalog.findTable? x name)) [owner]
        simp only [List.length_cons, List.length_nil, Option.toList_some] at two one
        omega
      · rintro ⟨⟨⟩, -⟩

theorem reportsOnce_iff_duplicates (h : m.catalog.WellNamed) {view : TableView} {name : String}
    (rows : answer.rows.Perm ((m.findTables schema name).flatMap fun found =>
      (view.objectsOf m found).flatMap (view.rowsOf m))) :
    view.ReportsOnce m schema (some name) answer ↔
      ∀ found, (m.findTables schema name).Duplicate found →
        (view.objectsOf m found).flatMap (view.rowsOf m) = [] := by
  have disjoint : ∀ found ∈ m.findTables schema name, ∀ other ∈ m.findTables schema name,
      found ≠ other → (view.objectsOf m found).Disjoint (view.objectsOf m other) := by
    intro found inFound other inOther differ object ofFound ofOther
    have subject := subject_of_mem h (kept_of_mem_findTables h inFound) ofFound
    have subject' := subject_of_mem h (kept_of_mem_findTables h inOther) ofOther
    exact differ (subject.symm.trans subject')
  rw [← exists_nodup_parts_iff (fun found _ => nodup_objectsOf h view found) disjoint]
  refine exists_congr fun objects => and_congr_right fun _ => and_congr ?_ ?_
  · refine forall₂_congr fun object _ => ?_
    constructor
    · rintro ⟨-, _, ⟨⟩, ofFound⟩
      exact ofFound
    · intro ofFound
      exact ⟨contributes_rowsOf view object, name, rfl, ofFound⟩
  · exact ⟨rows.symm.trans, rows.trans⟩

/-- Every successful answer reports every object once, except that the rows of a table come again
when the call names no schema and the name means the table in two of them. -/
theorem reportsOnce_iff (reached : m.catalog.Reached fun _ _ => True) {view : TableView}
    (answered : view.ask m catalog schema table = .ok answer) :
    view.ReportsOnce m schema table answer ↔
      ¬(schema = none ∧ view.selects m catalog = true ∧ view.FindsTwice m table) := by
  have h := reached.wellNamed
  obtain ⟨name, rfl, rows⟩ := rows_perm_of_ask h answered
  by_cases selected : view.selects m catalog = true
  · rw [if_pos selected] at rows
    rw [reportsOnce_iff_duplicates h rows]
    constructor
    · rintro noRows ⟨noSchema, -, _, ⟨⟩, owner, listed, other, listed', differ, found, first,
        second, visible, object, reported, rows⟩
      have twice := (duplicate_findTables_iff h).mpr
        ⟨noSchema, owner, listed, other, listed', differ, first, second, visible⟩
      exact rows (List.flatMap_eq_nil_iff.mp (noRows found twice) object reported)
    · intro notTwice found twice
      obtain ⟨noSchema, owner, listed, other, listed', differ, first, second, visible⟩ :=
        (duplicate_findTables_iff h).mp twice
      rw [List.flatMap_eq_nil_iff]
      intro object reported
      by_contra rows
      exact notTwice ⟨noSchema, selected, name, rfl, owner, listed, other, listed', differ, found,
        first, second, visible, object, reported, rows⟩
  · rw [if_neg selected] at rows
    constructor
    · rintro - ⟨-, chosen, -⟩
      exact selected chosen
    · intro
      exact ⟨[], List.nodup_nil, by simp, rows⟩

/-- A table that references itself, and a synonym of its name for it in another schema. -/
def synonymHistory : List Operation :=
  [.createSchema "S",
    .createTable { name := "T", columns := [{ name := "A", type := .integer }] },
    .setPrimaryKey "PUBLIC" "T" ⟨"K", ["A"]⟩,
    .createSynonym "S" ⟨"T", "PUBLIC", "T"⟩,
    .addForeignKey "PUBLIC" "T" {
      name := "F", columns := ["A"], parentTable := "T", parentColumns := ["A"] }]

theorem reached_synonymHistory :
    ((Catalog.started "C" .insensitive).after synonymHistory).Reached fun _ _ => True := by
  refine (Catalog.Reached.start "C" .insensitive).after synonymHistory ?_
  simp [synonymHistory, Operation.keepsCaseMode]

theorem reportsOnce_of_schema_argument :
    let m : Metadata :=
      .ofCatalog ((Catalog.started "C" .insensitive).after synonymHistory) {} {}
    ∃ answer, m.importedKeys none (some "PUBLIC") (some "T") = .ok answer ∧
      answer.rows.length = 1 ∧
      importedKeys.ReportsOnce m (some "PUBLIC") (some "T") answer := by
  intro m
  have selected : m.catalog.isSelectedBy none = true := rfl
  have coded : ∀ r ∈ (m.findTables (some "PUBLIC") "T").flatMap m.referencesOf, r.IsCoded := by
    decide +kernel
  have answered :
      ∃ answer, importedKeys.ask m none (some "PUBLIC") (some "T") = .ok answer := by
    simp only [ask, importedKeys_eq_ok_iff, selected, if_true, referenceTable_eq_ok_iff]
    exact ⟨_, "T", rfl, rfl, coded, rfl⟩
  obtain ⟨answer, answered⟩ := answered
  refine ⟨answer, answered, ?_, (reportsOnce_iff reached_synonymHistory answered).mpr ?_⟩
  · obtain ⟨_, ⟨⟩, rows⟩ := rows_perm_of_ask reached_synonymHistory.wellNamed answered
    rw [rows.length_eq]
    decide +kernel
  · rintro ⟨⟨⟩, -⟩

theorem importedKeys_repeats_synonym_target :
    let m : Metadata :=
      .ofCatalog ((Catalog.started "C" .insensitive).after synonymHistory) {} {}
    ∃ answer, m.importedKeys none none (some "T") = .ok answer ∧
      answer.rows.length = 2 ∧
      ¬importedKeys.ReportsOnce m none (some "T") answer := by
  intro m
  have h : m.catalog.WellNamed := reached_synonymHistory.wellNamed
  have selected : m.catalog.isSelectedBy none = true := rfl
  have coded : ∀ r ∈ (m.findTables none "T").flatMap m.referencesOf, r.IsCoded := by
    decide +kernel
  have twice : ∃ found ∈ m.findTables none "T", (m.findTables none "T").Duplicate found ∧
      (importedKeys.objectsOf m found).flatMap (importedKeys.rowsOf m) ≠ [] := by
    decide +kernel
  have answered : ∃ answer, importedKeys.ask m none none (some "T") = .ok answer := by
    simp only [ask, importedKeys_eq_ok_iff, selected, if_true, referenceTable_eq_ok_iff]
    exact ⟨_, "T", rfl, rfl, coded, rfl⟩
  obtain ⟨answer, answered⟩ := answered
  obtain ⟨_, ⟨⟩, rows⟩ := rows_perm_of_ask h answered
  refine ⟨answer, answered, ?_, ?_⟩
  · rw [rows.length_eq]
    decide +kernel
  · rw [reportsOnce_iff_duplicates h rows]
    intro noRows
    obtain ⟨found, -, twice, nonempty⟩ := twice
    exact nonempty (noRows found twice)

end TableView

end CatalogViews
