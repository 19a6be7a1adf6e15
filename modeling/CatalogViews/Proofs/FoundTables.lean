import CatalogViews.Proofs.ReportedOnce
import CatalogViews.Proofs.StableSort
import CatalogViews.Proofs.TableIntegrity

/-!
# Answers for found tables

Once its checks are passed, a view of an exactly named table looks for tables of that name, gathers
rows table by table, and sorts all of them (`TableView.answerFor`). The rows of a table do not
depend on what else has been found. The views on foreign keys gather references first, and one
reference whose actions have no codes spoils the answer for all tables.
-/

namespace CatalogViews

theorem Metadata.wellFormed_of_mem_findTables {m : Metadata} {schema : Option String}
    {name : String} {located : Located}
    (reached : m.catalog.Reached fun mode table => table.WellFormed mode)
    (found : located ∈ m.findTables schema name) :
    located.table.WellFormed m.catalog.caseMode := by
  have kept := kept_of_mem_findTables reached.wellNamed found
  obtain ⟨_, foundSchema⟩ := Keyed.mem_values_iff.mp kept.schema
  exact reached.wellFormed_of_find? foundSchema kept.table

namespace TableView

open Metadata

/-- The columns of the answers of a view. -/
def columns : TableView → List ResultColumn
  | primaryKeys => primaryKeysColumns
  | bestRow => bestRowColumns
  | importedKeys | exportedKeys | crossReference _ _ _ => foreignKeysColumns
  | indexInfo _ _ => indexInfoColumns

/-- The positions by which a view sorts, none where it does not sort. -/
def order : TableView → List Nat
  | primaryKeys => primaryKeysOrder
  | bestRow => []
  | importedKeys => importedKeysOrder
  | exportedKeys | crossReference _ _ _ => exportedKeysOrder
  | indexInfo _ _ => indexInfoOrder

/-- Whether a view has the arguments that it requires besides the name of the table. -/
def isComplete : TableView → Bool
  | crossReference _ _ primaryTable => primaryTable.isSome
  | _ => true

/-- The references that a view reports for a table. -/
def referencesFor (m : Metadata) (found : Located) : TableView → List Reference
  | importedKeys => m.referencesOf found
  | exportedKeys =>
    ((m.visibleTables.flatMap m.referencesOf).filter (·.parent.sameAs found)).map
      ({ · with parent := found })
  | crossReference _ primarySchema (some primaryTable) =>
    (m.referencesOf found).filter fun r =>
      m.catalog.sameIdentifier r.parent.table.name primaryTable &&
        m.selectsSchema primarySchema r.parent.schema
  | _ => []

/-- The rows that a view reports for a table, before they are sorted. -/
def foundRows (m : Metadata) (found : Located) : TableView → List Row
  | primaryKeys => m.primaryKeyRows found
  | bestRow => m.bestRowRows found
  | indexInfo unique approximate =>
    (found.table.indexes.filter fun index =>
      index.isMaterialized && (!unique || index.unique)).flatMap (m.indexRows approximate found)
  | view => (view.referencesFor m found).flatMap m.referenceRows

/-- The actions of all references have codes. -/
def Coded (m : Metadata) (view : TableView) (found : Located) : Prop :=
  ∀ r ∈ view.referencesFor m found, r.IsCoded

instance (m : Metadata) (view : TableView) (found : Located) : Decidable (view.Coded m found) :=
  inferInstanceAs (Decidable (∀ r ∈ _, _))

/-- The answer of a view for the tables that it has found. -/
def answerFor (m : Metadata) (found : List Located) (view : TableView) :
    Except ViewError ResultTable :=
  if ∀ located ∈ found, view.Coded m located then
    .ok ((ResultTable.mk view.columns (found.flatMap (view.foundRows m ·))).sortRows view.order
      m.collation)
  else .error (.unknownAction .noAction)

variable {m : Metadata} {view : TableView} {catalog schema : Option String} {table : String}

theorem answerFor_of_no_references (none : ∀ located, view.referencesFor m located = [])
    (found : List Located) :
    view.answerFor m found = .ok ((ResultTable.mk view.columns
      (found.flatMap (view.foundRows m ·))).sortRows view.order m.collation) := by
  rw [answerFor, if_pos]
  intro located _ r member
  rw [none] at member
  cases member

theorem answerFor_of_references
    (rows : ∀ located, view.foundRows m located =
      (view.referencesFor m located).flatMap m.referenceRows)
    (columns : view.columns = foreignKeysColumns) (found : List Located) :
    view.answerFor m found =
      m.referenceTable (found.flatMap (view.referencesFor m ·)) view.order := by
  have coded : (∀ located ∈ found, view.Coded m located) ↔
      ∀ r ∈ found.flatMap (view.referencesFor m ·), r.IsCoded := by
    simp only [Coded, List.mem_flatMap]
    constructor
    · intro each r member
      obtain ⟨located, listed, member⟩ := member
      exact each located listed r member
    · intro all located listed r member
      exact all r ⟨located, listed, member⟩
  simp only [answerFor, referenceTable_eq, coded, rows, columns, List.flatMap_assoc]

theorem sortRows_nil (table : ResultTable) (collation : Collation) :
    table.sortRows [] collation = table := by
  have sorted : table.rows.mergeSort (collation.rowLE []) = table.rows :=
    List.mergeSort_of_pairwise (List.pairwise_of_forall fun _ _ => rfl)
  rw [ResultTable.sortRows, sorted]

/-- A call that is complete makes the checks of all views and then answers for what it finds. -/
theorem ask_eq (complete : view.isComplete = true) :
    view.ask m catalog schema (some table) = (m.checkOpen >>= fun _ =>
      if !view.selects m catalog then pure (.empty view.columns)
      else view.answerFor m (m.findTables schema table)) := by
  cases view with
  | primaryKeys =>
    rw [answerFor_of_no_references fun _ => rfl]
    rfl
  | bestRow =>
    rw [answerFor_of_no_references fun _ => rfl]
    simp only [order, sortRows_nil]
    rfl
  | importedKeys =>
    rw [answerFor_of_references (fun _ => rfl) rfl]
    rfl
  | exportedKeys =>
    rw [answerFor_of_references (fun _ => rfl) rfl]
    rfl
  | crossReference primaryCatalog primarySchema primaryTable =>
    cases primaryTable with
    | none => cases complete
    | some primaryTable =>
      rw [answerFor_of_references (fun _ => rfl) rfl]
      simp only [referencesFor, ← List.filter_flatMap, selects, Bool.not_and]
      rfl
  | indexInfo unique approximate =>
    rw [answerFor_of_no_references fun _ => rfl]
    rfl

theorem ask_of_selected (complete : view.isComplete = true) (opened : m.session.closed = false)
    (selected : view.selects m catalog = true) (name : String) :
    view.ask m catalog schema (some name) = view.answerFor m (m.findTables schema name) := by
  rw [ask_eq complete, checkOpen, opened, selected]
  rfl

/-- A view that gathers no references has the rows of the one table that it finds. -/
theorem ask_of_single (view : TableView) (complete : view.isComplete = true)
    (none : ∀ located, view.referencesFor m located = []) (opened : m.session.closed = false)
    (selected : view.selects m catalog = true) {found : Located}
    (single : m.findTables schema table = [found]) :
    view.ask m catalog schema (some table) = .ok ((ResultTable.mk view.columns
      (view.foundRows m found)).sortRows view.order m.collation) := by
  rw [ask_of_selected complete opened selected, single, answerFor_of_no_references none,
    List.flatMap_singleton]

end TableView

end CatalogViews
