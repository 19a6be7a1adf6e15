import CatalogViews.Metadata.ForeignKeys
import CatalogViews.Proofs.NameUniqueness
import Mathlib.Data.List.Nodup

/-!
# Views of an exactly named table

What the views share that take the exact name of a table: what it means that a call succeeds, which
tables it finds, and, for the views on foreign keys, which rows a reference gives.

A found table is one that the catalog keeps. The search does not look whether it has found a table
before: this takes two schemas in which the name means the same table, and thus a call without a
schema.
-/

namespace CatalogViews

namespace Metadata

variable {m : Metadata}

theorem required_eq_ok_iff {name : String} {argument : Option String} {value : String} :
    required name argument = .ok value ↔ argument = some value := by
  cases argument <;> simp [required]

/-- A call behind the checks that all views make: the session is open, and an argument that selects
another catalog gives no rows. -/
theorem checked_eq_ok_iff {selected : Bool} {columns : List ResultColumn}
    {body : Except ViewError ResultTable} {answer : ResultTable} :
    (m.checkOpen >>= fun _ => if !selected then pure (.empty columns) else body) = .ok answer ↔
      m.session.closed = false ∧
        if selected then body = .ok answer else .empty columns = answer := by
  have opened {u : Unit} : m.checkOpen = .ok u ↔ m.session.closed = false := by
    cases closed : m.session.closed <;> simp [checkOpen, closed]
  rw [bind_eq_ok_iff]
  cases selected <;> simp [opened, pure, Except.pure]

end Metadata

namespace Catalog.WellNamed

variable {catalog : Catalog}

theorem nodup_values (h : catalog.WellNamed) : catalog.schemas.values.Nodup := by
  have distinct := Keyed.nodup_map_values h.declaredNames
  exact distinct.of_map

end Catalog.WellNamed

/-- A schema argument selects at most one schema. -/
theorem Catalog.schemasNamed_eq_toList (catalog : Catalog) (name : String) :
    ∃ owner : Option Schema, catalog.schemasNamed (some name) = owner.toList := by
  rw [schemasNamed]
  split
  · exact ⟨_, rfl⟩
  · exact ⟨_, rfl⟩

namespace Metadata

variable {m : Metadata} {schema : Option String} {name : String} {located : Located}

theorem mem_findTables_iff :
    located ∈ m.findTables schema name ↔
      (∃ owner ∈ m.catalog.schemasNamed schema, m.catalog.findTable? owner name = some located) ∧
        located.table.hidden = false := by
  simp [findTables]

theorem mem_values_of_mem_schemasNamed (h : m.catalog.WellNamed) {owner : Schema}
    (selected : owner ∈ m.catalog.schemasNamed schema) : owner ∈ m.catalog.schemas.values := by
  unfold Catalog.schemasNamed at selected
  split at selected
  · exact selected
  · split at selected
    · exact Keyed.mem_values_iff.mpr ⟨_, Option.mem_toList.mp selected⟩
    · exact (h.schema?_eq_some_iff.mp (Option.mem_toList.mp selected)).1

theorem kept_of_mem_findTables (h : m.catalog.WellNamed)
    (found : located ∈ m.findTables schema name) : located.Kept m.catalog := by
  obtain ⟨⟨owner, selected, meant⟩, -⟩ := mem_findTables_iff.mp found
  exact h.kept_of_findTable? (mem_values_of_mem_schemasNamed h selected) meant

/-- A schema argument selects at most one schema, in which a name means at most one table. -/
theorem findTables_eq_toList (m : Metadata) (schema table : String) :
    ∃ found : Option Located, m.findTables (some schema) table = found.toList := by
  obtain ⟨owner, selected⟩ := m.catalog.schemasNamed_eq_toList schema
  rw [findTables, selected]
  cases owner with
  | none => exact ⟨none, rfl⟩
  | some owner =>
    refine ⟨(m.catalog.findTable? owner table).filter (!·.table.hidden), ?_⟩
    rw [Option.toList_filter, List.filterMap_eq_flatMap_toList, Option.toList_some,
      List.flatMap_singleton]

theorem findTables_eq_singleton {schema : String}
    (resolves : located ∈ m.findTables (some schema) name) :
    m.findTables (some schema) name = [located] := by
  obtain ⟨found, all⟩ := m.findTables_eq_toList schema name
  rw [all, Option.mem_toList] at resolves
  rw [all, resolves, Option.toList_some]

/-- A visible table is found alone under its own name and that of its schema. -/
theorem findTables_own (h : m.catalog.WellNamed) (kept : located.Kept m.catalog)
    (visible : located.table.hidden = false) (named : located.schema.name ≠ "") :
    m.findTables (some located.schema.name) located.table.name = [located] := by
  have owner : m.catalog.schema? located.schema.name = some located.schema :=
    h.schema?_eq_some_iff.mpr ⟨kept.schema, rfl⟩
  have notEmpty : located.schema.name.isEmpty = false := by simpa using named
  simp [findTables, Catalog.schemasNamed, notEmpty, owner, h.findTable?_own kept, visible]

theorem mem_visibleTables_iff :
    located ∈ m.visibleTables ↔ located.Kept m.catalog ∧ located.table.hidden = false := by
  obtain ⟨schema, key, table⟩ := located
  simp only [visibleTables, List.mem_flatMap, List.mem_map, List.mem_filter]
  constructor
  · rintro ⟨owner, listed, ⟨key, table⟩, ⟨entry, visible⟩, ⟨⟩⟩
    exact ⟨⟨listed, Keyed.find?_eq_some_iff.mpr entry⟩, by simpa using visible⟩
  · rintro ⟨⟨listed, entry⟩, visible⟩
    exact ⟨schema, listed, (key, table), ⟨Keyed.find?_eq_some_iff.mp entry, by simpa using visible⟩,
      rfl⟩

theorem nodup_visibleTables (h : m.catalog.WellNamed) : m.visibleTables.Nodup := by
  rw [visibleTables, List.nodup_flatMap]
  constructor
  · intro schema listed
    have entries : schema.tables.entries.Nodup := schema.tables.nodup.of_map
    refine (entries.filter _).map ?_
    rintro ⟨key, table⟩ ⟨key', table'⟩ same
    cases same
    rfl
  · refine h.nodup_values.imp ?_
    intro schema schema' differ located listed listed'
    obtain ⟨_, -, rfl⟩ := List.mem_map.mp listed
    obtain ⟨_, -, same⟩ := List.mem_map.mp listed'
    exact differ (congrArg Located.schema same).symm

theorem mem_referencesOf_iff {child : Located} {r : Reference} :
    r ∈ m.referencesOf child ↔
      r.fk ∈ child.table.foreignKeys ∧ r.child = child ∧
        m.parentOf? child.schema r.fk = some r.parent := by
  obtain ⟨parent, child', fk⟩ := r
  simp only [referencesOf, List.mem_filterMap, Option.map_eq_some_iff, Reference.mk.injEq]
  constructor
  · rintro ⟨fk, declared, parent, found, rfl, rfl, rfl⟩
    exact ⟨declared, rfl, found⟩
  · rintro ⟨declared, rfl, found⟩
    exact ⟨fk, declared, parent, found, rfl, rfl, rfl⟩

theorem kept_of_parentOf? (h : m.catalog.WellNamed) {owner : Schema} {fk : ForeignKey}
    (found : m.parentOf? owner fk = some located) : located.Kept m.catalog :=
  h.kept_of_findTableIn? found

/-- The row of a pair of columns of a reference. -/
def referenceRow (m : Metadata) (r : Reference) (updateRule deleteRule : Int16) (index : Nat)
    (childColumn parentColumn : String) : Row :=
  [m.catalogCell, .varchar r.parent.schema.name, .varchar r.parent.table.name,
    .varchar parentColumn, m.catalogCell, .varchar r.child.schema.name,
    .varchar r.child.table.name, .varchar childColumn, ordinalCell index, .smallint updateRule,
    .smallint deleteRule, .varchar r.fk.name, .ofText? r.fk.referencedKey, .smallint notDeferrable]

/-- The rows of a reference, none where its actions have no codes. -/
def referenceRows (m : Metadata) (r : Reference) : List Row :=
  match r.fk.onUpdate.code, r.fk.onDelete.code with
  | .ok updateRule, .ok deleteRule =>
    r.fk.columnPairs.zipIdx.map fun ((childColumn, parentColumn), index) =>
      m.referenceRow r updateRule deleteRule index childColumn parentColumn
  | _, _ => []

/-- The actions of a reference have codes. -/
def Reference.IsCoded (r : Reference) : Prop :=
  r.fk.onUpdate ≠ .noAction ∧ r.fk.onDelete ≠ .noAction

instance (r : Reference) : Decidable r.IsCoded :=
  inferInstanceAs (Decidable (_ ∧ _))

theorem code_eq_ok_of_ne {action : ReferentialAction} (coded : action ≠ .noAction) :
    ∃ code, action.code = .ok code := by
  cases action <;> first | exact ⟨_, rfl⟩ | exact absurd rfl coded

theorem ne_of_code_eq_ok {action : ReferentialAction} {code : Int16} (h : action.code = .ok code) :
    action ≠ .noAction := by
  rintro rfl
  cases h

theorem foreignKeyRows_eq_ok_iff {r : Reference} {rows : List Row} :
    m.foreignKeyRows r.parent r.child r.fk = .ok rows ↔ r.IsCoded ∧ rows = m.referenceRows r := by
  unfold foreignKeyRows
  simp only [bind_eq_ok_iff]
  constructor
  · rintro ⟨updateRule, update, deleteRule, delete, made⟩
    cases made
    refine ⟨⟨ne_of_code_eq_ok update, ne_of_code_eq_ok delete⟩, ?_⟩
    simp only [referenceRows, update, delete, referenceRow]
  · rintro ⟨⟨update, delete⟩, rfl⟩
    obtain ⟨updateRule, update⟩ := code_eq_ok_of_ne update
    obtain ⟨deleteRule, delete⟩ := code_eq_ok_of_ne delete
    refine ⟨updateRule, update, deleteRule, delete, ?_⟩
    simp only [referenceRows, update, delete, referenceRow]
    rfl

/-- What all rows of a reference say about its tables. -/
structure TellsTables (m : Metadata) (r : Reference) (row : Row) : Prop where
  parentCatalog : row[0]? = some m.catalogCell
  parentSchema : row[1]? = some (.varchar r.parent.schema.name)
  parentTable : row[2]? = some (.varchar r.parent.table.name)
  childCatalog : row[4]? = some m.catalogCell
  childSchema : row[5]? = some (.varchar r.child.schema.name)
  childTable : row[6]? = some (.varchar r.child.table.name)

theorem tellsTables_of_mem {r : Reference} {row : Row} (member : row ∈ m.referenceRows r) :
    m.TellsTables r row := by
  unfold referenceRows at member
  split at member
  · obtain ⟨⟨⟨childColumn, parentColumn⟩, index⟩, -, rfl⟩ := List.mem_map.mp member
    constructor <;> rfl
  · cases member

/-- The answer of a view on foreign keys: the rows of the references, in the order of the view. -/
theorem referenceTable_eq_ok_iff {references : List Reference} {order : List Nat}
    {answer : ResultTable} :
    m.referenceTable references order = .ok answer ↔
      (∀ r ∈ references, r.IsCoded) ∧
        answer = (ResultTable.mk foreignKeysColumns (references.flatMap m.referenceRows)).sortRows
          order m.collation := by
  have rows {found : List (List Row)} :
      (references.mapM fun r => m.foreignKeyRows r.parent r.child r.fk) = .ok found ↔
        (∀ r ∈ references, r.IsCoded) ∧ found = references.map m.referenceRows := by
    rw [mapM_eq_ok_iff]
    simp only [foreignKeyRows_eq_ok_iff, List.forall₂_and_left]
    refine and_congr_right fun _ => ?_
    have graph : List.Forall₂ (fun r rows => m.referenceRows r = rows) references found ↔
        references.map m.referenceRows = found := by
      rw [← List.forall₂_map_left_iff, List.forall₂_eq_eq_eq]
    simpa only [eq_comm] using graph
  unfold referenceTable
  rw [bind_eq_ok_iff]
  simp only [rows]
  constructor
  · rintro ⟨_, ⟨coded, rfl⟩, made⟩
    cases made
    exact ⟨coded, by rw [List.flatMap_def]⟩
  · rintro ⟨coded, rfl⟩
    exact ⟨_, ⟨coded, rfl⟩, by rw [List.flatMap_def]; rfl⟩

theorem eq_unknownAction_of_code {action : ReferentialAction} {error : ViewError}
    (h : action.code = .error error) : error = .unknownAction .noAction := by
  cases action <;> cases h
  rfl

theorem eq_unknownAction_of_referenceTable {references : List Reference} {order : List Nat}
    {error : ViewError} (h : m.referenceTable references order = .error error) :
    error = .unknownAction .noAction := by
  unfold referenceTable at h
  cases found : references.mapM fun r => m.foreignKeyRows r.parent r.child r.fk with
  | ok rows =>
    rw [found] at h
    cases h
  | error failure =>
    rw [found] at h
    cases h
    obtain ⟨r, -, failed⟩ := exists_of_mapM_eq_error found
    unfold foreignKeyRows at failed
    cases update : r.fk.onUpdate.code with
    | error failure =>
      rw [update] at failed
      cases failed
      exact eq_unknownAction_of_code update
    | ok updateRule =>
      cases delete : r.fk.onDelete.code with
      | error failure =>
        rw [update, delete] at failed
        cases failed
        exact eq_unknownAction_of_code delete
      | ok deleteRule =>
        rw [update, delete] at failed
        cases failed

/-- There is an answer unless an action has no code, and then the failure is always the same. -/
theorem referenceTable_eq (references : List Reference) (order : List Nat) :
    m.referenceTable references order =
      if ∀ r ∈ references, r.IsCoded then
        .ok ((ResultTable.mk foreignKeysColumns (references.flatMap m.referenceRows)).sortRows
          order m.collation)
      else .error (.unknownAction .noAction) := by
  split
  · rename_i coded
    exact referenceTable_eq_ok_iff.mpr ⟨coded, rfl⟩
  · rename_i uncoded
    cases answered : m.referenceTable references order with
    | ok answer => exact absurd (referenceTable_eq_ok_iff.mp answered).1 uncoded
    | error error => rw [eq_unknownAction_of_referenceTable answered]

variable {catalog table : Option String} {answer : ResultTable}

theorem importedKeys_eq_ok_iff :
    m.importedKeys catalog schema table = .ok answer ↔
      ∃ name, table = some name ∧ m.session.closed = false ∧
        if m.catalog.isSelectedBy catalog then
          m.referenceTable ((m.findTables schema name).flatMap m.referencesOf) importedKeysOrder =
            .ok answer
        else .empty foreignKeysColumns = answer := by
  unfold importedKeys
  rw [bind_eq_ok_iff]
  simp only [required_eq_ok_iff]
  exact exists_congr fun name => and_congr_right fun _ => checked_eq_ok_iff

/-- The references of visible tables to a table. -/
def referencesTo (m : Metadata) (parent : Located) : List Reference :=
  (m.visibleTables.flatMap m.referencesOf).filter (·.parent.sameAs parent)

/-- The parent of a reference is the found table itself where it is the same. -/
theorem referencesTo_eq (h : m.catalog.WellNamed) {parent : Located}
    (kept : parent.Kept m.catalog) :
    (m.referencesTo parent).map ({ · with parent }) = m.referencesTo parent := by
  have same : ∀ r ∈ m.referencesTo parent, ({ r with parent } : Reference) = r := by
    intro r member
    obtain ⟨declared, parents⟩ := List.mem_filter.mp member
    obtain ⟨child, -, ofChild⟩ := List.mem_flatMap.mp declared
    have kept' : r.parent.Kept m.catalog :=
      kept_of_parentOf? h (mem_referencesOf_iff.mp ofChild).2.2
    rw [← (kept'.sameAs_iff kept h).mp parents]
  exact (List.map_congr_left same).trans (List.map_id _)

theorem exportedKeys_eq_ok_iff (h : m.catalog.WellNamed) :
    m.exportedKeys catalog schema table = .ok answer ↔
      ∃ name, table = some name ∧ m.session.closed = false ∧
        if m.catalog.isSelectedBy catalog then
          m.referenceTable ((m.findTables schema name).flatMap m.referencesTo) exportedKeysOrder =
            .ok answer
        else .empty foreignKeysColumns = answer := by
  unfold exportedKeys
  rw [bind_eq_ok_iff]
  simp only [required_eq_ok_iff]
  refine exists_congr fun name => and_congr_right fun _ => checked_eq_ok_iff.trans ?_
  have same : (m.findTables schema name).flatMap m.referencesTo =
      (m.findTables schema name).flatMap fun parent =>
        (m.referencesTo parent).map ({ · with parent }) := by
    refine List.flatMap_congr fun parent found => ?_
    rw [referencesTo_eq h (kept_of_mem_findTables h found)]
  rw [same]
  rfl

/-- The references of the foreign tables that the primary arguments of a cross reference select. -/
def selectedReferences (m : Metadata) (primarySchema : Option String) (primaryTable : String)
    (children : List Located) : List Reference :=
  (children.flatMap m.referencesOf).filter fun r =>
    m.catalog.sameIdentifier r.parent.table.name primaryTable &&
      m.selectsSchema primarySchema r.parent.schema

theorem crossReference_eq_ok_iff {primaryCatalog primarySchema primaryTable : Option String} :
    m.crossReference primaryCatalog primarySchema primaryTable catalog schema table = .ok answer ↔
      ∃ primaryName, primaryTable = some primaryName ∧ ∃ name, table = some name ∧
        m.session.closed = false ∧
          if m.catalog.isSelectedBy primaryCatalog && m.catalog.isSelectedBy catalog then
            m.referenceTable (m.selectedReferences primarySchema primaryName
              (m.findTables schema name)) exportedKeysOrder = .ok answer
          else .empty foreignKeysColumns = answer := by
  unfold crossReference
  rw [bind_eq_ok_iff]
  simp only [required_eq_ok_iff]
  refine exists_congr fun primaryName => and_congr_right fun _ => ?_
  rw [bind_eq_ok_iff]
  simp only [required_eq_ok_iff]
  refine exists_congr fun name => and_congr_right fun _ => ?_
  rw [← Bool.not_and]
  exact checked_eq_ok_iff

end Metadata

end CatalogViews
