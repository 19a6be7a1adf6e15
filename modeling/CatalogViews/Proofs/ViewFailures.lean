import CatalogViews.Metadata.TypeInfo
import CatalogViews.Proofs.FoundTables
import CatalogViews.Proofs.PatternLanguage
import CatalogViews.Proofs.TableListing

/-!
# How the views fail

A view that is answered from the catalog makes its checks in a fixed order: the required arguments,
the session, the catalog argument, the list of types, the patterns, and at last the actions of the
foreign keys that it reports. Several things can be wrong with one call, so the order decides what
the call ends with. `CatalogView.Ends` lists the endings with all that has been checked before, and
every call comes to one of them (`CatalogView.ends_ask`).

Nothing is assumed of the catalog. That each error has exactly its own cause
(`CatalogView.failsAsChecked`) only takes that the endings exclude each other.
-/

namespace CatalogViews

/-- A view that is answered from the catalog, with its arguments. -/
inductive CatalogView where
  | catalogs
  | listSchemas (catalog schema : Option String)
  | listTableTypes
  | tables (catalog schema table : Option String) (types : Option (List String))
  | columns (catalog schema table column : Option String)
  | ofTable (catalog schema table : Option String) (view : TableView)
  | typeInfo

/-- The pattern ends on an escape character that escapes nothing. -/
def Metadata.Malformed (m : Metadata) (pattern : String) : Prop :=
  LikePattern.Dangles m.settings.searchEscape pattern.toList

namespace CatalogView

/-- The call of a view. -/
def ask (m : Metadata) : CatalogView → Except ViewError ResultTable
  | catalogs => m.catalogs
  | listSchemas catalog schema => m.listSchemas catalog schema
  | listTableTypes => m.listTableTypes
  | tables catalog schema table types => m.tables catalog schema table types
  | columns catalog schema table column => m.columns catalog schema table column
  | ofTable catalog schema table view => view.ask m catalog schema table
  | typeInfo => m.typeInfo

/-- The columns of the answers of a view. -/
def resultColumns : CatalogView → List ResultColumn
  | catalogs => Metadata.catalogsColumns
  | listSchemas _ _ => Metadata.schemasColumns
  | listTableTypes => Metadata.tableTypesColumns
  | tables _ _ _ _ => Metadata.tablesColumns
  | columns _ _ _ _ => Metadata.columnsColumns
  | ofTable _ _ _ view => view.columns
  | typeInfo => Metadata.typeInfoColumns

/-- The required arguments with their names. -/
def required : CatalogView → List (String × Option String)
  | ofTable _ _ table (.crossReference _ _ primaryTable) =>
    [("primaryTable", primaryTable), ("foreignTable", table)]
  | ofTable _ _ table _ => [("table", table)]
  | _ => []

/-- The name of the first required argument that is absent. -/
def missing? (view : CatalogView) : Option String :=
  (view.required.find? (·.2.isNone)).map (·.1)

/-- The names that are given for the catalog. -/
def catalogNames : CatalogView → List String
  | listSchemas catalog _ => catalog.toList
  | tables catalog _ _ _ => catalog.toList
  | columns catalog _ _ _ => catalog.toList
  | ofTable catalog _ _ (.crossReference primaryCatalog _ _) =>
    primaryCatalog.toList ++ catalog.toList
  | ofTable catalog _ _ _ => catalog.toList
  | _ => []

/-- A name is given for the catalog that is neither empty nor the same identifier as its name. -/
def NamesOtherCatalog (m : Metadata) (view : CatalogView) : Prop :=
  ∃ name ∈ view.catalogNames, name ≠ "" ∧ m.catalog.sameIdentifier name m.catalog.name = false

/-- There is a list of types, and no known type is in it. -/
def ListsNoType : CatalogView → Prop
  | tables _ _ _ (some types) => ∀ type ∈ types, type ∉ tableTypes ∧ type ≠ "TABLE"
  | _ => False

/-- The patterns in the order of the schema, the table and the column. -/
def patterns : CatalogView → List String
  | listSchemas _ schema => schema.toList
  | tables _ schema table _ => schema.toList ++ table.toList
  | columns _ schema table column => schema.toList ++ table.toList ++ column.toList
  | _ => []

/-- The first pattern that is malformed. -/
def FirstMalformed (m : Metadata) (view : CatalogView) (pattern : String) : Prop :=
  ∃ before after, view.patterns = before ++ pattern :: after ∧ m.Malformed pattern ∧
    ∀ earlier ∈ before, ¬m.Malformed earlier

/-- The foreign keys that a view reports, however many pairs of columns they have. The child is not
hidden, and the parent exists. -/
def Reports (m : Metadata) (r : Metadata.Reference) : CatalogView → Prop
  | ofTable _ schema (some table) view =>
    r.fk ∈ r.child.table.foreignKeys ∧ m.parentOf? r.child.schema r.fk = some r.parent ∧
      match view with
      | .importedKeys => r.child ∈ m.findTables schema table
      | .exportedKeys =>
        r.child ∈ m.visibleTables ∧ ∃ parent ∈ m.findTables schema table, r.parent.sameAs parent
      | .crossReference _ primarySchema (some primaryTable) =>
        r.child ∈ m.findTables schema table ∧
          m.catalog.sameIdentifier r.parent.table.name primaryTable ∧
          m.selectsSchema primarySchema r.parent.schema
      | _ => False
  | _ => False

/-- A call comes to the point where rows are looked for. -/
structure Reaches (m : Metadata) (view : CatalogView) : Prop where
  present : view.missing? = none
  opened : m.session.closed = false
  selected : ¬view.NamesOtherCatalog m
  typed : ¬view.ListsNoType

/-- What a call can end with, and why. -/
inductive Ends (m : Metadata) (view : CatalogView) : Except ViewError ResultTable → Prop
  | missing {name : String} :
      view.missing? = some name → Ends m view (.error (.missingArgument name))
  | closed : view.missing? = none → m.session.closed = true → Ends m view (.error .sessionClosed)
  | nothing : view.missing? = none → m.session.closed = false →
      view.NamesOtherCatalog m ∨ view.ListsNoType → Ends m view (.ok (.empty view.resultColumns))
  | malformed {pattern : String} : view.Reaches m → view.FirstMalformed m pattern →
      Ends m view (.error (.invalidPattern pattern))
  | uncoded {r : Metadata.Reference} : view.Reaches m → view.Reports m r → ¬r.IsCoded →
      Ends m view (.error (.unknownAction .noAction))
  | answered {answer : ResultTable} : view.Reaches m →
      (∀ pattern ∈ view.patterns, ¬m.Malformed pattern) → (∀ r, view.Reports m r → r.IsCoded) →
      Ends m view (.ok answer)

variable {m : Metadata} {view : CatalogView}

/-- The session is looked at once the required arguments are there. -/
theorem ends_of_checkOpen {rest : Except ViewError ResultTable} (present : view.missing? = none)
    (opened : m.session.closed = false → view.Ends m rest) :
    view.Ends m (m.checkOpen >>= fun _ => rest) := by
  cases closed : m.session.closed with
  | true =>
    have refused : m.checkOpen = .error .sessionClosed := by
      rw [Metadata.checkOpen, if_pos closed]
    rw [refused]
    exact .closed present closed
  | false =>
    have passed : m.checkOpen = .ok () := by
      rw [Metadata.checkOpen, closed, if_neg Bool.false_ne_true]
    rw [passed]
    exact opened closed

/-- Whether the catalog arguments select the catalog. -/
def selects (m : Metadata) : CatalogView → Bool
  | listSchemas catalog _ => m.catalog.isSelectedBy catalog
  | tables catalog _ _ _ => m.catalog.isSelectedBy catalog
  | columns catalog _ _ _ => m.catalog.isSelectedBy catalog
  | ofTable catalog _ _ view => view.selects m catalog
  | _ => true

theorem selects_eq_false_iff : view.selects m = false ↔ view.NamesOtherCatalog m := by
  have given (catalog : Option String) : m.catalog.isSelectedBy catalog = false ↔
      ∃ name ∈ catalog, name ≠ "" ∧ m.catalog.sameIdentifier name m.catalog.name = false := by
    cases catalog <;> simp [Catalog.isSelectedBy]
  cases view with
  | catalogs | listTableTypes | typeInfo => simp [selects, NamesOtherCatalog, catalogNames]
  | listSchemas | tables | columns =>
    simp only [selects, NamesOtherCatalog, catalogNames, given, Option.mem_toList]
    rfl
  | ofTable catalog schema table view =>
    cases view with
    | crossReference =>
      simp only [selects, TableView.selects, NamesOtherCatalog, catalogNames, Bool.and_eq_false_iff,
        given, List.mem_append, Option.mem_toList, or_and_right, exists_or]
      rfl
    | _ =>
      simp only [selects, TableView.selects, NamesOtherCatalog, catalogNames, given,
        Option.mem_toList]
      rfl

/-- The catalog arguments are looked at once the session is known to be open. -/
theorem ends_of_checked {body : Except ViewError ResultTable} (present : view.missing? = none)
    (reached : m.session.closed = false → ¬view.NamesOtherCatalog m → view.Ends m body) :
    view.Ends m (m.checkOpen >>= fun _ =>
      if !view.selects m then pure (.empty view.resultColumns) else body) := by
  refine ends_of_checkOpen present fun opened => ?_
  cases selected : view.selects m with
  | true =>
    apply reached opened
    rw [← selects_eq_false_iff, selected]
    exact nofun
  | false => exact .nothing present opened (.inl (selects_eq_false_iff.mp selected))

/-- A pattern is compiled after the ones before it. -/
theorem ends_of_like (before after : List String) {source : Option String}
    {rest : Option LikePattern → Except ViewError ResultTable} (reaches : view.Reaches m)
    (listed : view.patterns = before ++ source.toList ++ after)
    (wellFormed : ∀ pattern ∈ before, ¬m.Malformed pattern)
    (next : (∀ pattern ∈ before ++ source.toList, ¬m.Malformed pattern) →
      ∀ compiled, view.Ends m (rest compiled)) :
    view.Ends m (m.like? source >>= rest) := by
  cases source with
  | none => exact next (by simpa using wellFormed) none
  | some pattern =>
    rw [Option.toList_some] at listed next
    by_cases malformed : m.Malformed pattern
    · have refused : m.like? (some pattern) = .error (.invalidPattern pattern) :=
        LikePattern.like?_eq_error_iff.mpr ⟨rfl, malformed⟩
      rw [refused]
      refine .malformed reaches ⟨before, after, ?_, malformed, wellFormed⟩
      rw [listed, List.append_assoc, List.singleton_append]
    · cases compiled : m.like? (some pattern) with
      | error error =>
        exact absurd (LikePattern.like?_eq_error_iff.mp compiled).2 malformed
      | ok compiled =>
        apply next
        intro earlier member
        rcases List.mem_append.mp member with listed | last
        · exact wellFormed earlier listed
        · rw [List.mem_singleton.mp last]
          exact malformed

/-- Of each found table the view takes the foreign keys that it reports. Where it puts in the table
itself as the parent, the actions stay. -/
theorem coded_iff (catalog schema : Option String) (table : String) (view : TableView) :
    (∀ found ∈ m.findTables schema table, view.Coded m found) ↔
      ∀ r, (ofTable catalog schema (some table) view).Reports m r → r.IsCoded := by
  cases view with
  | primaryKeys | bestRow | indexInfo =>
    constructor
    · exact fun _ _ reports => reports.2.2.elim
    · intro _ _ _ r member
      cases member
  | importedKeys =>
    simp only [TableView.Coded, TableView.referencesFor, Reports, Metadata.mem_referencesOf_iff]
    constructor
    · intro coded r reports
      obtain ⟨declared, parent, found⟩ := reports
      exact coded r.child found r ⟨declared, rfl, parent⟩
    · intro coded child found r reported
      obtain ⟨declared, rfl, parent⟩ := reported
      exact coded r ⟨declared, parent, found⟩
  | exportedKeys =>
    simp only [TableView.Coded, TableView.referencesFor, Reports, List.mem_flatMap, List.mem_map,
      List.mem_filter, Metadata.mem_referencesOf_iff]
    constructor
    · intro coded r reports
      obtain ⟨declared, located, visible, parent, found, same⟩ := reports
      exact coded parent found { r with parent }
        ⟨r, ⟨⟨r.child, visible, declared, rfl, located⟩, same⟩, rfl⟩
    · intro coded parent found r reported
      obtain ⟨r, ⟨⟨child, visible, declared, rfl, located⟩, same⟩, rfl⟩ := reported
      exact coded r ⟨declared, located, visible, parent, found, same⟩
  | crossReference primaryCatalog primarySchema primaryTable =>
    cases primaryTable with
    | none =>
      constructor
      · exact fun _ _ reports => reports.2.2.elim
      · intro _ _ _ r member
        cases member
    | some primaryTable =>
      simp only [TableView.Coded, TableView.referencesFor, Reports, List.mem_filter,
        Metadata.mem_referencesOf_iff, Bool.and_eq_true]
      constructor
      · intro coded r reports
        obtain ⟨declared, parent, found, named, located⟩ := reports
        exact coded r.child found r ⟨⟨declared, rfl, parent⟩, named, located⟩
      · intro coded child found r reported
        obtain ⟨⟨declared, rfl, parent⟩, named, located⟩ := reported
        exact coded r ⟨declared, parent, found, named, located⟩

/-- A complete call of a view of an exactly named table. -/
theorem ends_complete (catalog schema : Option String) (table : String) {view : TableView}
    (complete : view.isComplete = true)
    (present : (ofTable catalog schema (some table) view).missing? = none) :
    (ofTable catalog schema (some table) view).Ends m (view.ask m catalog schema (some table)) := by
  rw [TableView.ask_eq complete]
  refine ends_of_checked present fun opened selected => ?_
  have reaches : (ofTable catalog schema (some table) view).Reaches m :=
    ⟨present, opened, selected, id⟩
  rw [TableView.answerFor]
  split
  · rename_i coded
    exact .answered reaches (List.forall_mem_nil _) ((coded_iff catalog schema table view).mp coded)
  · rename_i uncoded
    rw [coded_iff catalog schema table view] at uncoded
    simp only [not_forall, exists_prop] at uncoded
    obtain ⟨r, reports, uncoded⟩ := uncoded
    exact .uncoded reaches reports uncoded

theorem ends_ofTable (catalog schema table : Option String) (view : TableView) :
    (ofTable catalog schema table view).Ends m (view.ask m catalog schema table) := by
  cases view with
  | crossReference primaryCatalog primarySchema primaryTable =>
    cases primaryTable with
    | none => exact .missing rfl
    | some primaryTable =>
      cases table with
      | none => exact .missing rfl
      | some table => exact ends_complete catalog schema table rfl rfl
  | primaryKeys | bestRow | importedKeys | exportedKeys | indexInfo unique approximate =>
    cases table with
    | none => exact .missing rfl
    | some table => exact ends_complete catalog schema table rfl rfl

/-- A known type is one of the table types, or the other word for the first of them. -/
theorem listsNoType_iff {catalog schema table : Option String} {types : Option (List String)} :
    (tables catalog schema table types).ListsNoType ↔ types.map acceptedTypes = some [] := by
  cases types with
  | none => simp [ListsNoType]
  | some types =>
    have base : "BASE TABLE" ∈ tableTypes := by decide
    simp only [ListsNoType, Option.map_some, Option.some.injEq, List.eq_nil_iff_forall_not_mem,
      Metadata.mem_acceptedTypes_iff]
    constructor
    · intro unknown type accepted
      rcases accepted with ⟨known, listed | ⟨-, listed⟩⟩
      · exact (unknown type listed).1 known
      · exact (unknown "TABLE" listed).2 rfl
    · intro nothing type listed
      constructor
      · intro known
        exact nothing type ⟨known, .inl listed⟩
      · intro same
        rw [same] at listed
        exact nothing "BASE TABLE" ⟨base, .inr ⟨rfl, listed⟩⟩

theorem ends_tables (catalog schema table : Option String) (types : Option (List String)) :
    (tables catalog schema table types).Ends m (m.tables catalog schema table types) := by
  refine ends_of_checked rfl fun opened selected => ?_
  dsimp only
  split
  · rename_i none
    exact .nothing rfl opened (.inr (listsNoType_iff.mpr (by simpa using none)))
  · rename_i known
    have typed : ¬(tables catalog schema table types).ListsNoType := by
      rw [listsNoType_iff]
      simpa using known
    have reaches : (tables catalog schema table types).Reaches m := ⟨rfl, opened, selected, typed⟩
    refine ends_of_like [] table.toList reaches rfl (List.forall_mem_nil _) ?_
    intro schemaOk schemaLike
    refine ends_of_like _ [] reaches (by simp [patterns]) schemaOk ?_
    intro wellFormed tableLike
    exact .answered reaches (by simpa [patterns] using wellFormed) fun _ reports => reports.elim

theorem ends_columns (catalog schema table column : Option String) :
    (columns catalog schema table column).Ends m (m.columns catalog schema table column) := by
  refine ends_of_checked rfl fun opened selected => ?_
  have reaches : (columns catalog schema table column).Reaches m := ⟨rfl, opened, selected, id⟩
  refine ends_of_like [] (table.toList ++ column.toList) reaches (by simp [patterns])
    (List.forall_mem_nil _) ?_
  intro schemaOk schemaLike
  refine ends_of_like _ column.toList reaches (by simp [patterns]) schemaOk ?_
  intro tableOk tableLike
  refine ends_of_like _ [] reaches (by simp [patterns]) tableOk ?_
  intro wellFormed columnLike
  exact .answered reaches (by simpa [patterns] using wellFormed) fun _ reports => reports.elim

theorem ends_listSchemas (catalog schema : Option String) :
    (listSchemas catalog schema).Ends m (m.listSchemas catalog schema) := by
  refine ends_of_checked rfl fun opened selected => ?_
  have reaches : (listSchemas catalog schema).Reaches m := ⟨rfl, opened, selected, id⟩
  refine ends_of_like [] [] reaches (by simp [patterns]) (List.forall_mem_nil _) ?_
  intro wellFormed compiled
  exact .answered reaches (by simpa [patterns] using wellFormed) fun _ reports => reports.elim

/-- Every call of a view comes to one of the endings. -/
theorem ends_ask (m : Metadata) (view : CatalogView) : view.Ends m (view.ask m) := by
  cases view with
  | catalogs | listTableTypes | typeInfo =>
    apply ends_of_checkOpen rfl
    intro opened
    exact .answered ⟨rfl, opened, nofun, id⟩ (List.forall_mem_nil _) fun _ reports => reports.elim
  | listSchemas catalog schema => exact ends_listSchemas catalog schema
  | tables catalog schema table types => exact ends_tables catalog schema table types
  | columns catalog schema table column => exact ends_columns catalog schema table column
  | ofTable catalog schema table view => exact ends_ofTable catalog schema table view

theorem firstMalformed_iff {pattern : String} [DecidablePred m.Malformed] :
    view.FirstMalformed m pattern ↔ view.patterns.find? (m.Malformed ·) = some pattern := by
  rw [List.find?_eq_some_iff_append, FirstMalformed]
  constructor
  · intro ⟨before, after, listed, malformed, earlier⟩
    exact ⟨by simpa using malformed, before, after, listed, by simpa using earlier⟩
  · intro ⟨malformed, before, after, listed, earlier⟩
    exact ⟨before, after, listed, by simpa using malformed, by simpa using earlier⟩

theorem FirstMalformed.unique {pattern other : String} (first : view.FirstMalformed m pattern)
    (first' : view.FirstMalformed m other) : pattern = other := by
  classical
  rw [firstMalformed_iff] at first first'
  exact Option.some.inj (first.symm.trans first')

theorem FirstMalformed.mem {pattern : String} (first : view.FirstMalformed m pattern) :
    pattern ∈ view.patterns ∧ m.Malformed pattern := by
  obtain ⟨before, after, listed, malformed, -⟩ := first
  rw [listed]
  exact ⟨by simp, malformed⟩

/-- Foreign keys are reported by views without patterns. -/
theorem patterns_eq_nil_of_reports {r : Metadata.Reference} (reports : view.Reports m r) :
    view.patterns = [] := by
  cases view with
  | ofTable => rfl
  | _ => exact reports.elim

theorem Reaches.not_nothing (reaches : view.Reaches m) :
    ¬(view.NamesOtherCatalog m ∨ view.ListsNoType) :=
  not_or.mpr ⟨reaches.selected, reaches.typed⟩

/-- The cause of an error is the cause of nothing else. -/
theorem Ends.eq_of_error {error : ViewError} {outcome : Except ViewError ResultTable}
    (ends : view.Ends m (.error error)) (ends' : view.Ends m outcome) :
    outcome = .error error := by
  cases ends with
  | @missing name absent =>
    have absent' : ¬view.missing? = none := by simp [absent]
    cases ends' with
    | missing other => rw [Option.some.inj (other.symm.trans absent)]
    | closed present => exact absurd present absent'
    | nothing present => exact absurd present absent'
    | malformed reaches => exact absurd reaches.present absent'
    | uncoded reaches => exact absurd reaches.present absent'
    | answered reaches => exact absurd reaches.present absent'
  | closed present closed =>
    have closed' : ¬m.session.closed = false := by simp [closed]
    cases ends' with
    | missing absent => simp [present] at absent
    | closed => rfl
    | nothing _ opened => exact absurd opened closed'
    | malformed reaches => exact absurd reaches.opened closed'
    | uncoded reaches => exact absurd reaches.opened closed'
    | answered reaches => exact absurd reaches.opened closed'
  | malformed reaches first =>
    cases ends' with
    | missing absent => simp [reaches.present] at absent
    | closed _ closed => simp [reaches.opened] at closed
    | nothing _ _ nothing => exact absurd nothing reaches.not_nothing
    | malformed _ other => rw [other.unique first]
    | uncoded _ reports =>
      have member := first.mem.1
      rw [patterns_eq_nil_of_reports reports] at member
      cases member
    | answered _ wellFormed => exact absurd first.mem.2 (wellFormed _ first.mem.1)
  | uncoded reaches reports uncoded =>
    cases ends' with
    | missing absent => simp [reaches.present] at absent
    | closed _ closed => simp [reaches.opened] at closed
    | nothing _ _ nothing => exact absurd nothing reaches.not_nothing
    | malformed _ first =>
      have member := first.mem.1
      rw [patterns_eq_nil_of_reports reports] at member
      cases member
    | uncoded => rfl
    | answered _ _ coded => exact absurd (coded _ reports) uncoded

theorem ask_eq_error_iff {error : ViewError} :
    view.ask m = .error error ↔ view.Ends m (.error error) := by
  constructor
  · intro failed
    rw [← failed]
    exact ends_ask m view
  · intro ends
    exact ends.eq_of_error (ends_ask m view)

end CatalogView

end CatalogViews
