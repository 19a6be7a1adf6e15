import CatalogViews.Proofs.ReportedOnce

/-!
# Synonyms in place of their targets

A view that takes the exact name of a table searches for it, and the search follows synonyms. So a
visible table may be named by a synonym for it, in the schema of the synonym, and the answer is the
same (`TableView.ask_synonym`).

A cross reference searches for the foreign table only. The primary table is compared by name with
the parents of the references, and no parent has the name of a synonym in the schema of the synonym:
the two share a namespace. A call with a synonym there reports nothing, so it agrees with the call
that names the target exactly where that one has nothing to report either.
-/

namespace CatalogViews

namespace Metadata

variable {m : Metadata} {owner : Schema} {synonym : Synonym} {target : Located}

theorem findTables_synonym (h : m.catalog.WellNamed) (listed : owner ∈ m.catalog.schemas.values)
    (owned : synonym ∈ owner.synonyms.values) (stands : m.catalog.target? synonym = some target)
    (visible : target.table.hidden = false) (named : owner.name ≠ "") :
    m.findTables (some owner.name) synonym.name = [target] := by
  have selected : m.catalog.schemasNamed (some owner.name) = [owner] := by
    have found : m.catalog.schema? owner.name = some owner :=
      h.schema?_eq_some_iff.mpr ⟨listed, rfl⟩
    have notEmpty : owner.name.isEmpty = false := by simpa using named
    simp [Catalog.schemasNamed, notEmpty, found]
  have meant : m.catalog.findTable? owner synonym.name = some target := by
    rw [h.findTable?_synonym listed owned, stands]
  simp [findTables, selected, meant, visible]

/-- The name of a synonym is the name of no parent in the schema of the synonym. -/
theorem selectedReferences_synonym (h : m.catalog.WellNamed)
    (listed : owner ∈ m.catalog.schemas.values) (owned : synonym ∈ owner.synonyms.values)
    (named : owner.name ≠ "") (children : List Located) :
    m.selectedReferences (some owner.name) synonym.name children = [] := by
  rw [selectedReferences, List.filter_eq_nil_iff]
  intro r declared selected
  obtain ⟨child, -, ofChild⟩ := List.mem_flatMap.mp declared
  have kept : r.parent.Kept m.catalog :=
    kept_of_parentOf? h (mem_referencesOf_iff.mp ofChild).2.2
  have notEmpty : owner.name.isEmpty = false := by simpa using named
  simp only [selectsSchema, notEmpty, Bool.false_eq_true, if_false, Bool.and_eq_true,
    Catalog.sameIdentifier, CaseMode.same_iff] at selected
  obtain ⟨sameTable, sameSchema⟩ := selected
  have here : owner = r.parent.schema := h.schema_eq listed kept.schema sameSchema
  have found : owner.tables.find? (m.catalog.caseMode.key synonym.name) = some r.parent.table := by
    rw [here, ← sameTable, ← kept.key_eq h]
    exact kept.table
  rw [h.find?_table_of_synonym listed owned] at found
  cases found

theorem referenceTable_nil (m : Metadata) (order : List Nat) :
    m.referenceTable [] order = .ok (.empty foreignKeysColumns) := by
  rw [referenceTable_eq]
  simp [ResultTable.sortRows, ResultTable.empty]

/-- A cross reference, once it has a primary table. -/
theorem crossReference_eq (m : Metadata) (primaryCatalog primarySchema : Option String)
    (primaryTable : String) (catalog schema table : Option String) :
    m.crossReference primaryCatalog primarySchema (some primaryTable) catalog schema table =
      required "foreignTable" table >>= fun name => m.checkOpen >>= fun _ =>
        if m.catalog.isSelectedBy primaryCatalog && m.catalog.isSelectedBy catalog then
          m.referenceTable (m.selectedReferences primarySchema primaryTable
            (m.findTables schema name)) exportedKeysOrder
        else .ok (.empty foreignKeysColumns) := by
  cases table with
  | none => rfl
  | some name =>
    unfold crossReference
    rw [← Bool.not_and]
    cases m.catalog.isSelectedBy primaryCatalog && m.catalog.isSelectedBy catalog <;> rfl

/-- A call that names a synonym as the primary table has no rows, if it succeeds at all. -/
theorem crossReference_synonym (h : m.catalog.WellNamed)
    (listed : owner ∈ m.catalog.schemas.values) (owned : synonym ∈ owner.synonyms.values)
    (named : owner.name ≠ "") (primaryCatalog catalog schema table : Option String) :
    m.crossReference primaryCatalog (some owner.name) (some synonym.name) catalog schema table =
      required "foreignTable" table >>= fun _ => m.checkOpen >>= fun _ =>
        .ok (.empty foreignKeysColumns) := by
  simp only [crossReference_eq, selectedReferences_synonym h listed owned named,
    referenceTable_nil, ite_self]

/-- Two cross references that differ in the primary table only, where one has nothing to report:
they pass the same checks, so they agree when the other has nothing to report either. -/
theorem eq_crossReference_iff {through : Except ViewError ResultTable}
    {primaryCatalog primarySchema : Option String} {primaryTable : String}
    {catalog schema table : Option String}
    (checked : through = required "foreignTable" table >>= fun _ => m.checkOpen >>= fun _ =>
      .ok (.empty foreignKeysColumns)) :
    through = m.crossReference primaryCatalog primarySchema (some primaryTable) catalog schema
        table ↔
      (∀ action, m.crossReference primaryCatalog primarySchema (some primaryTable) catalog schema
        table ≠ .error (.unknownAction action)) ∧
      ∀ answer, m.crossReference primaryCatalog primarySchema (some primaryTable) catalog schema
        table = .ok answer → answer.rows = [] := by
  rw [checked, crossReference_eq]
  cases table with
  | none => simp [required, bind, Except.bind]
  | some name =>
    cases closed : m.session.closed with
    | true => simp [required, checkOpen, closed, bind, Except.bind]
    | false =>
      simp only [required, checkOpen, closed, bind, Except.bind, Bool.false_eq_true, if_false]
      rw [referenceTable_eq]
      split
      · split
        · simp only [ne_eq, reduceCtorEq, not_false_eq_true, implies_true, true_and,
            Except.ok.injEq, forall_eq']
          rw [ResultTable.sortRows, ResultTable.empty, ResultTable.mk.injEq]
          exact ⟨fun same => same.2.symm, fun none => ⟨rfl, none.symm⟩⟩
        · simp
      · simp [ResultTable.empty]

end Metadata

namespace TableView

open Metadata

variable {m : Metadata}

/-- A view depends on the name of a table only through what the search finds. -/
theorem ask_congr (view : TableView) (catalog : Option String) {schema schema' : Option String}
    {table table' : String} (same : m.findTables schema table = m.findTables schema' table') :
    view.ask m catalog schema (some table) = view.ask m catalog schema' (some table') := by
  cases view with
  | primaryKeys => simp only [ask, Metadata.primaryKeys, required, bind, Except.bind, same]
  | bestRow => simp only [ask, Metadata.bestRow, required, bind, Except.bind, same]
  | importedKeys => simp only [ask, Metadata.importedKeys, required, bind, Except.bind, same]
  | exportedKeys => simp only [ask, Metadata.exportedKeys, required, bind, Except.bind, same]
  | crossReference primaryCatalog primarySchema primaryTable =>
    simp only [ask, Metadata.crossReference, required, bind, Except.bind, same]
  | indexInfo unique approximate =>
    simp only [ask, Metadata.indexInfo, required, bind, Except.bind, same]

/-- The answers for a synonym and for its target. The last two parts are about the primary table of
a cross reference: naming the synonym there reports nothing. -/
theorem ask_synonym (reached : m.catalog.Reached fun _ _ => True) {owner : Schema}
    {synonym : Synonym} {target : Located} (listed : owner ∈ m.catalog.schemas.values)
    (owned : synonym ∈ owner.synonyms.values) (stands : m.catalog.target? synonym = some target)
    (visible : target.table.hidden = false) (ownerNamed : owner.name ≠ "")
    (targetNamed : target.schema.name ≠ "") :
    (∀ (view : TableView) (catalog : Option String),
      view.ask m catalog (some owner.name) (some synonym.name) =
        view.ask m catalog (some target.schema.name) (some target.table.name)) ∧
    ∀ primaryCatalog catalog schema table : Option String,
      let through :=
        m.crossReference primaryCatalog (some owner.name) (some synonym.name) catalog schema table
      let direct :=
        m.crossReference primaryCatalog (some target.schema.name) (some target.table.name) catalog
          schema table
      (∀ answer, direct = .ok answer → through = .ok (.empty foreignKeysColumns)) ∧
      (through = direct ↔ (∀ action, direct ≠ .error (.unknownAction action)) ∧
        ∀ answer, direct = .ok answer → answer.rows = []) := by
  have h : m.catalog.WellNamed := reached.wellNamed
  constructor
  · intro view catalog
    have kept : target.Kept m.catalog := h.kept_of_target? stands
    refine view.ask_congr catalog ?_
    rw [findTables_synonym h listed owned stands visible ownerNamed,
      findTables_own h kept visible targetNamed]
  · intro primaryCatalog catalog schema table through direct
    have checked := crossReference_synonym h listed owned ownerNamed primaryCatalog catalog schema
      table
    refine ⟨fun answer answered => ?_, eq_crossReference_iff checked⟩
    obtain ⟨-, -, name, named, opened, -⟩ := crossReference_eq_ok_iff.mp answered
    simp [through, checked, named, required, checkOpen, opened, bind, Except.bind]

theorem ask_synonym_in_another_schema :
    let m : Metadata :=
      .ofCatalog ((Catalog.started "C" .insensitive).after synonymHistory) {} {}
    ∀ view : TableView,
      view.ask m none (some "S") (some "T") = view.ask m none (some "PUBLIC") (some "T") := by
  intro m view
  have owned : ∃ owner ∈ m.catalog.schemas.values, owner.name = "S" ∧
      ∃ synonym ∈ owner.synonyms.values, synonym.name = "T" ∧
        ∃ target ∈ m.catalog.target? synonym, target.table.hidden = false ∧
          target.schema.name = "PUBLIC" ∧ target.table.name = "T" := by
    decide +kernel
  obtain ⟨owner, listed, ownerName, synonym, owned, synonymName, target, stands, visible,
    targetSchema, targetName⟩ := owned
  have same := (ask_synonym reached_synonymHistory listed owned stands visible
    (by simp [ownerName]) (by simp [targetSchema])).1 view none
  rwa [ownerName, synonymName, targetSchema, targetName] at same

/-- The table references itself. That is reported when the primary table goes by its own name, and
not when it goes by the name of the synonym. -/
theorem crossReference_misses_synonym :
    let m : Metadata :=
      .ofCatalog ((Catalog.started "C" .insensitive).after synonymHistory) {} {}
    m.catalog.findTableIn? "S" "T" = m.catalog.findTableIn? "PUBLIC" "T" ∧
      (∃ direct, m.crossReference none (some "PUBLIC") (some "T") none (some "PUBLIC") (some "T") =
        .ok direct ∧ direct.rows.length = 1) ∧
      m.crossReference none (some "S") (some "T") none (some "PUBLIC") (some "T") =
        .ok (.empty foreignKeysColumns) := by
  intro m
  have selected : m.catalog.isSelectedBy none = true := rfl
  have nothing : m.selectedReferences (some "S") "T" (m.findTables (some "PUBLIC") "T") = [] := by
    decide +kernel
  have coded : ∀ r ∈ m.selectedReferences (some "PUBLIC") "T" (m.findTables (some "PUBLIC") "T"),
      r.IsCoded := by
    decide +kernel
  refine ⟨by decide +kernel, ?_, ?_⟩
  · simp only [crossReference_eq_ok_iff, selected, Bool.and_self, if_true,
      referenceTable_eq_ok_iff]
    refine ⟨_, ⟨"T", rfl, "T", rfl, rfl, coded, rfl⟩, ?_⟩
    rw [ResultTable.sortRows, List.length_mergeSort]
    decide +kernel
  · simp only [crossReference_eq_ok_iff, selected, Bool.and_self, if_true]
    exact ⟨"T", rfl, "T", rfl, rfl, by rw [nothing, referenceTable_nil]⟩

end TableView

end CatalogViews
