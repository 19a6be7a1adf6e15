import CatalogViews.Proofs.FixtureContents
import CatalogViews.Proofs.ViewFailures

/-!
# Actions of described foreign keys

A foreign key of a catalog may have no action at all, and the views on foreign keys have no rule
code for that: one such foreign key spoils a whole answer. A document cannot bring it about. The
text for no action stands for a restriction, as no text does, and every other text stands for one of
the actions with a code or for nothing. So every foreign key of a built catalog has a code for both
of its actions, and the views only fail for a missing argument or a closed session.
-/

namespace CatalogViews

/-- No text stands for no action. -/
theorem ReferentialAction.ne_noAction_of_standsFor {source : Option String}
    {action : ReferentialAction} (stands : StandsFor texts .restrict source action) :
    action ≠ .noAction := by
  have coded : ∀ entry ∈ texts, entry.2 ≠ .noAction := by decide
  cases stands with
  | absent => exact nofun
  | listed known => exact coded _ known

namespace Fixture

variable {fixture : Fixture} {catalog : Catalog}

/-- Every foreign key of a built catalog is one that the document describes. -/
theorem Fills.ne_noAction (fills : fixture.Fills catalog) (h : catalog.WellNamed) {owner : Schema}
    (listed : owner ∈ catalog.schemas.values) {table : Table} (owned : table ∈ owner.tables.values)
    {fk : ForeignKey} (declared : fk ∈ table.foreignKeys) :
    fk.onUpdate ≠ .noAction ∧ fk.onDelete ≠ .noAction := by
  obtain ⟨described, -, tables⟩ := fills.exists_forall₂_tablesOf h listed
  obtain ⟨spec, -, described⟩ := exists_mem_of_forall₂ tables owned
  obtain ⟨written, -, described⟩ := exists_mem_of_forall₂ described.foreignKeys declared
  exact ⟨ReferentialAction.ne_noAction_of_standsFor described.onUpdate,
    ReferentialAction.ne_noAction_of_standsFor described.onDelete⟩

end Fixture

namespace CatalogView

variable {m : Metadata} {view : CatalogView}

/-- What a view reports is a foreign key of a table of the catalog. -/
theorem kept_of_reports (h : m.catalog.WellNamed) {r : Metadata.Reference}
    (reports : view.Reports m r) :
    r.child.Kept m.catalog ∧ r.fk ∈ r.child.table.foreignKeys := by
  cases view with
  | ofTable catalog schema table view =>
    cases table with
    | none => exact reports.elim
    | some table =>
      obtain ⟨declared, -, found⟩ := reports
      refine ⟨?_, declared⟩
      cases view with
      | importedKeys => exact Metadata.kept_of_mem_findTables h found
      | exportedKeys => exact (Metadata.mem_visibleTables_iff.mp found.1).1
      | crossReference primaryCatalog primarySchema primaryTable =>
        cases primaryTable with
        | none => exact found.elim
        | some primaryTable => exact Metadata.kept_of_mem_findTables h found.1
      | _ => exact found.elim
  | _ => exact reports.elim

theorem ask_ne_unknownAction (coded : ∀ r, view.Reports m r → r.IsCoded)
    (action : ReferentialAction) : view.ask m ≠ .error (.unknownAction action) := by
  intro failed
  cases ask_eq_error_iff.mp failed with
  | uncoded _ reports uncoded => exact uncoded (coded _ reports)

/-- Without patterns, a call that has what it requires is answered. -/
theorem exists_answer_of_coded (coded : ∀ r, view.Reports m r → r.IsCoded)
    (present : view.missing? = none) (opened : m.session.closed = false)
    (noPatterns : view.patterns = []) : ∃ answer, view.ask m = .ok answer := by
  have ends := ends_ask m view
  generalize view.ask m = outcome at ends ⊢
  cases ends with
  | missing absent => simp [present] at absent
  | closed _ closed => simp [opened] at closed
  | malformed _ first =>
    have member := first.mem.1
    rw [noPatterns] at member
    cases member
  | uncoded _ reports uncoded => exact absurd (coded _ reports) uncoded
  | nothing | answered => exact ⟨_, rfl⟩

end CatalogView

namespace Metadata

/-- The actions of all foreign keys have codes, and the views on foreign keys never fail for an
action: they answer once they have what they require. -/
structure KnowsActions (m : Metadata) : Prop where
  coded : ∀ owner ∈ m.catalog.schemas.values, ∀ table ∈ owner.tables.values,
    ∀ fk ∈ table.foreignKeys, ∃ updateRule deleteRule,
      fk.onUpdate.code = .ok updateRule ∧ fk.onDelete.code = .ok deleteRule
  importedKeys : ∀ catalog schema table action,
    m.importedKeys catalog schema table ≠ .error (.unknownAction action)
  exportedKeys : ∀ catalog schema table action,
    m.exportedKeys catalog schema table ≠ .error (.unknownAction action)
  crossReference : ∀ primaryCatalog primarySchema primaryTable catalog schema table action,
    m.crossReference primaryCatalog primarySchema primaryTable catalog schema table ≠
      .error (.unknownAction action)
  answers : m.session.closed = false → ∀ catalog schema table,
    (∃ answer, m.importedKeys catalog schema (some table) = .ok answer) ∧
      (∃ answer, m.exportedKeys catalog schema (some table) = .ok answer) ∧
      ∀ primaryCatalog primarySchema primaryTable, ∃ answer,
        m.crossReference primaryCatalog primarySchema (some primaryTable) catalog schema
          (some table) = .ok answer

variable {m : Metadata} {fixture : Fixture}

/-- Of what a document builds, whatever the session, the settings and the collation. -/
theorem knowsActions_of_build (built : fixture.build = .ok m.catalog) : m.KnowsActions := by
  have h := (Fixture.reached_of_build built).wellNamed
  have fills := Fixture.fills_of_build built
  have coded (view : CatalogView) (r : Reference) (reports : view.Reports m r) : r.IsCoded := by
    obtain ⟨kept, declared⟩ := CatalogView.kept_of_reports h reports
    exact fills.ne_noAction h kept.schema (Keyed.mem_values_iff.mpr ⟨_, kept.table⟩) declared
  constructor
  · intro owner listed table owned fk declared
    obtain ⟨update, delete⟩ := fills.ne_noAction h listed owned declared
    obtain ⟨updateRule, update⟩ := code_eq_ok_of_ne update
    obtain ⟨deleteRule, delete⟩ := code_eq_ok_of_ne delete
    exact ⟨updateRule, deleteRule, update, delete⟩
  · intro catalog schema table action
    exact CatalogView.ask_ne_unknownAction (coded (.ofTable catalog schema table .importedKeys))
      action
  · intro catalog schema table action
    exact CatalogView.ask_ne_unknownAction (coded (.ofTable catalog schema table .exportedKeys))
      action
  · intro primaryCatalog primarySchema primaryTable catalog schema table action
    exact CatalogView.ask_ne_unknownAction (coded (.ofTable catalog schema table
      (.crossReference primaryCatalog primarySchema primaryTable))) action
  · intro opened catalog schema table
    refine ⟨?_, ?_, ?_⟩
    · exact CatalogView.exists_answer_of_coded
        (coded (.ofTable catalog schema (some table) .importedKeys)) rfl opened rfl
    · exact CatalogView.exists_answer_of_coded
        (coded (.ofTable catalog schema (some table) .exportedKeys)) rfl opened rfl
    · intro primaryCatalog primarySchema primaryTable
      exact CatalogView.exists_answer_of_coded (coded (.ofTable catalog schema (some table)
        (.crossReference primaryCatalog primarySchema (some primaryTable)))) rfl opened rfl

/-- Both texts of a foreign key are for no action, in one spelling and another. -/
theorem knowsActions_of_no_action :
    let parent : TableSpec := {
      name := "P", columns := [{ name := "ID", type := "INTEGER" }], primaryKey := ["ID"] }
    let child : TableSpec := {
      name := "C", columns := [{ name := "P_ID", type := "INTEGER" }], foreignKeys := [{
        name := "F", columns := ["P_ID"], parentTable := "P", parentColumns := ["ID"],
        onDelete := some "NO ACTION", onUpdate := some " no action " }] }
    let fixture : Fixture := {
      name := "D", caseMode := .insensitive, schemas := [
        { name := "PUBLIC", tables := [parent, child] }] }
    ∃ catalog, fixture.build = .ok catalog ∧
      (catalog.tableIn? "PUBLIC" "C").map (·.foreignKeys.map fun fk => (fk.onDelete, fk.onUpdate)) =
        some [(.restrict, .restrict)] ∧
      (Metadata.ofCatalog catalog {} {}).KnowsActions := by
  intro parent child fixture
  have contents : (fixture.build.toOption.map fun catalog =>
      (catalog.tableIn? "PUBLIC" "C").map
        (·.foreignKeys.map fun fk => (fk.onDelete, fk.onUpdate))) =
          some (some [(.restrict, .restrict)]) := by
    decide +kernel
  obtain ⟨catalog, built, contents⟩ := exists_eq_ok_of_map_toOption contents
  exact ⟨catalog, built, contents, knowsActions_of_build built⟩

end Metadata

end CatalogViews
