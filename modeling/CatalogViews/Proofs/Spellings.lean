import CatalogViews.Proofs.SynonymTransparency

/-!
# Spellings of a name

Where case does not matter, a name has many spellings, and full uppercase forms make some of them
longer than others: `Straße` is the same identifier as `STRASSE`. The lookups of an exact name, and
the views that take one, depend on a name only up to its spelling (`Metadata.IgnoresSpelling`). What
they answer is spelled as it was declared.

Three ways of comparing names come together in a view. Tables and synonyms are kept under the keys
of their names. Schemas are kept under their declared names, and that a spelling means one of them
rests on the uniqueness of names. The catalog, and the primary table of a cross reference with its
schema, are compared by the case mode. The empty name has a meaning of its own; no other name is a
spelling of it, since no character has an empty uppercase form.
-/

namespace CatalogViews

theorem CaseMode.isEmpty_congr {mode : CaseMode} {a b : String} (same : mode.same a b = true) :
    a.isEmpty = b.isEmpty := by
  rw [same_iff] at same
  cases mode with
  | sensitive => exact congrArg String.isEmpty same
  | insensitive =>
    have forms : Text.upperChars a.toList = Text.upperChars b.toList := by
      rw [← Text.toList_upper, ← Text.toList_upper]
      exact congrArg String.toList same
    have empty (name : String) :
        name.isEmpty = true ↔ Text.upperChars name.toList = [] := by
      rw [Text.upperChars_eq_nil_iff, String.isEmpty_iff, String.toList_eq_nil_iff]
    rw [Bool.eq_iff_iff, empty, empty, forms]

namespace Catalog

/-- Two arguments that are both absent, or spellings of one identifier. -/
def SameArgument (catalog : Catalog) : Option String → Option String → Prop :=
  Option.Rel fun a b => catalog.sameIdentifier a b = true

variable {catalog : Catalog} {a b schema schema' table table' : String}

theorem key_eq_of_sameIdentifier (same : catalog.sameIdentifier a b = true) :
    catalog.caseMode.key a = catalog.caseMode.key b :=
  CaseMode.same_iff.mp same

theorem sameIdentifier_congr_left (name : String) (same : catalog.sameIdentifier a b = true) :
    catalog.sameIdentifier a name = catalog.sameIdentifier b name := by
  rw [sameIdentifier, sameIdentifier, CaseMode.same, CaseMode.same, key_eq_of_sameIdentifier same]

theorem sameIdentifier_congr_right (name : String) (same : catalog.sameIdentifier a b = true) :
    catalog.sameIdentifier name a = catalog.sameIdentifier name b := by
  rw [sameIdentifier, sameIdentifier, CaseMode.same, CaseMode.same, key_eq_of_sameIdentifier same]

theorem WellNamed.schema?_congr (h : catalog.WellNamed)
    (same : catalog.sameIdentifier a b = true) : catalog.schema? a = catalog.schema? b := by
  ext schema
  rw [h.schema?_eq_some_iff, h.schema?_eq_some_iff, key_eq_of_sameIdentifier same]

theorem WellNamed.tableIn?_congr (h : catalog.WellNamed)
    (schemas : catalog.sameIdentifier schema schema' = true)
    (tables : catalog.sameIdentifier table table' = true) :
    catalog.tableIn? schema table = catalog.tableIn? schema' table' := by
  simp only [tableIn?, Schema.table?, h.schema?_congr schemas, key_eq_of_sameIdentifier tables]

theorem findTable?_congr (tables : catalog.sameIdentifier table table' = true) :
    (catalog.findTable? · table) = (catalog.findTable? · table') := by
  simp only [findTable?, Schema.table?, Schema.synonym?, key_eq_of_sameIdentifier tables]

theorem WellNamed.findTableIn?_congr (h : catalog.WellNamed)
    (schemas : catalog.sameIdentifier schema schema' = true)
    (tables : catalog.sameIdentifier table table' = true) :
    catalog.findTableIn? schema table = catalog.findTableIn? schema' table' := by
  simp only [findTableIn?, h.schema?_congr schemas, findTable?_congr tables]

theorem isSelectedBy_congr {argument argument' : Option String}
    (same : catalog.SameArgument argument argument') :
    catalog.isSelectedBy argument = catalog.isSelectedBy argument' := by
  cases same with
  | none => rfl
  | some same =>
    rw [isSelectedBy, isSelectedBy, CaseMode.isEmpty_congr same, sameIdentifier_congr_left _ same]

theorem WellNamed.schemasNamed_congr (h : catalog.WellNamed) {argument argument' : Option String}
    (same : catalog.SameArgument argument argument') :
    catalog.schemasNamed argument = catalog.schemasNamed argument' := by
  cases same with
  | none => rfl
  | some same =>
    rw [schemasNamed, schemasNamed, CaseMode.isEmpty_congr same, h.schema?_congr same]

end Catalog

namespace Metadata

variable {m : Metadata}

theorem selectsSchema_congr {argument argument' : Option String}
    (same : m.catalog.SameArgument argument argument') :
    m.selectsSchema argument = m.selectsSchema argument' := by
  funext schema
  cases same with
  | none => rfl
  | some same =>
    simp only [selectsSchema, CaseMode.isEmpty_congr same,
      Catalog.sameIdentifier_congr_left schema.name same]

theorem findTables_congr (h : m.catalog.WellNamed) {schema schema' : Option String}
    {table table' : String} (schemas : m.catalog.SameArgument schema schema')
    (tables : m.catalog.sameIdentifier table table' = true) :
    m.findTables schema table = m.findTables schema' table' := by
  rw [findTables, findTables, h.schemasNamed_congr schemas, Catalog.findTable?_congr tables]

/-- The primary arguments of a cross reference are compared and not looked up. -/
theorem crossReference_congr {primaryCatalog primaryCatalog' primarySchema primarySchema'
      primaryTable primaryTable' : Option String}
    (catalogs : m.catalog.SameArgument primaryCatalog primaryCatalog')
    (schemas : m.catalog.SameArgument primarySchema primarySchema')
    (tables : m.catalog.SameArgument primaryTable primaryTable') :
    m.crossReference primaryCatalog primarySchema primaryTable =
      m.crossReference primaryCatalog' primarySchema' primaryTable' := by
  funext catalog schema table
  cases tables with
  | none => rfl
  | some tables =>
    simp only [crossReference_eq, Catalog.isSelectedBy_congr catalogs, selectedReferences,
      selectsSchema_congr schemas, Catalog.sameIdentifier_congr_right _ tables]

end Metadata

namespace TableView

open Metadata

variable {m : Metadata}

/-- The same view, perhaps with other spellings in the arguments that only it has. -/
inductive Respelled (catalog : Catalog) : TableView → TableView → Prop
  | same (view : TableView) : Respelled catalog view view
  | crossReference {primaryCatalog primaryCatalog' primarySchema primarySchema' primaryTable
        primaryTable' : Option String} :
      catalog.SameArgument primaryCatalog primaryCatalog' →
      catalog.SameArgument primarySchema primarySchema' →
      catalog.SameArgument primaryTable primaryTable' →
      Respelled catalog (.crossReference primaryCatalog primarySchema primaryTable)
        (.crossReference primaryCatalog' primarySchema' primaryTable')

theorem ask_congr_view {view view' : TableView} (same : view.Respelled m.catalog view')
    (catalog schema table : Option String) :
    view.ask m catalog schema table = view'.ask m catalog schema table := by
  cases same with
  | same => rfl
  | crossReference catalogs schemas tables =>
    rw [ask, ask, crossReference_congr catalogs schemas tables]

/-- A view depends on the name of the catalog only through whether it selects the catalog. -/
theorem ask_congr_catalog (view : TableView) {catalog catalog' : Option String}
    (same : m.catalog.isSelectedBy catalog = m.catalog.isSelectedBy catalog')
    (schema table : Option String) :
    view.ask m catalog schema table = view.ask m catalog' schema table := by
  cases view with
  | primaryKeys => simp only [ask, Metadata.primaryKeys, same]
  | bestRow => simp only [ask, Metadata.bestRow, same]
  | importedKeys => simp only [ask, Metadata.importedKeys, same]
  | exportedKeys => simp only [ask, Metadata.exportedKeys, same]
  | crossReference primaryCatalog primarySchema primaryTable =>
    simp only [ask, Metadata.crossReference, same]
  | indexInfo unique approximate => simp only [ask, Metadata.indexInfo, same]

/-- Without a table, a view does not look at the schema. -/
theorem ask_none_congr (view : TableView) (catalog schema schema' : Option String) :
    view.ask m catalog schema none = view.ask m catalog schema' none := by
  cases view with
  | crossReference primaryCatalog primarySchema primaryTable =>
    cases primaryTable <;> rfl
  | _ => rfl

theorem ask_congr_spelling (h : m.catalog.WellNamed) {view view' : TableView}
    {catalog catalog' schema schema' table table' : Option String}
    (views : view.Respelled m.catalog view') (catalogs : m.catalog.SameArgument catalog catalog')
    (schemas : m.catalog.SameArgument schema schema')
    (tables : m.catalog.SameArgument table table') :
    view.ask m catalog schema table = view'.ask m catalog' schema' table' := by
  rw [ask_congr_view views, ask_congr_catalog view' (Catalog.isSelectedBy_congr catalogs)]
  cases tables with
  | none => exact view'.ask_none_congr catalog' schema schema'
  | some tables => exact view'.ask_congr catalog' (findTables_congr h schemas tables)

end TableView

namespace Metadata

/-- The lookups of exact names and the views that take them depend on names up to their spelling,
row by row and failures included. -/
structure IgnoresSpelling (m : Metadata) : Prop where
  schema? : ∀ a b, m.catalog.sameIdentifier a b = true →
    m.catalog.schema? a = m.catalog.schema? b
  tableIn? : ∀ schema schema' table table', m.catalog.sameIdentifier schema schema' = true →
    m.catalog.sameIdentifier table table' = true →
    m.catalog.tableIn? schema table = m.catalog.tableIn? schema' table'
  findTableIn? : ∀ schema schema' table table', m.catalog.sameIdentifier schema schema' = true →
    m.catalog.sameIdentifier table table' = true →
    m.catalog.findTableIn? schema table = m.catalog.findTableIn? schema' table'
  ask : ∀ (view view' : TableView) (catalog catalog' schema schema' table table' : Option String),
    view.Respelled m.catalog view' → m.catalog.SameArgument catalog catalog' →
    m.catalog.SameArgument schema schema' → m.catalog.SameArgument table table' →
    view.ask m catalog schema table = view'.ask m catalog' schema' table'

variable {m : Metadata}

theorem ignoresSpelling_of_reached (reached : m.catalog.Reached fun _ _ => True) :
    m.IgnoresSpelling := by
  have h := reached.wellNamed
  constructor
  · exact fun a b same => h.schema?_congr same
  · exact fun schema schema' table table' schemas tables => h.tableIn?_congr schemas tables
  · exact fun schema schema' table table' schemas tables => h.findTableIn?_congr schemas tables
  · intro view view' catalog catalog' schema schema' table table' views catalogs schemas tables
    exact TableView.ask_congr_spelling h views catalogs schemas tables

/-- Names with and without the longer uppercase forms, in all six arguments of a cross reference
that has a row. -/
theorem ignoresSpelling_of_expanding_folds :
    let m : Metadata := .ofCatalog ((Catalog.started "Straße" .insensitive).after
      [.createSchema "Groß",
        .createTableIn "Groß" { name := "Maß", columns := [{ name := "A", type := .integer }] },
        .setPrimaryKey "GROSS" "MASS" ⟨"K", ["a"]⟩,
        .addForeignKey "gross" "mass" {
          name := "F", columns := ["a"], parentTable := "maß", parentColumns := ["a"] }]) {} {}
    m.crossReference (some "STRASSE") (some "gross") (some "MASS") (some "strasse") (some "GROSS")
        (some "mass") =
      m.crossReference (some "Straße") (some "Groß") (some "Maß") (some "Straße") (some "Groß")
        (some "Maß") ∧
    ∃ answer, m.crossReference (some "Straße") (some "Groß") (some "Maß") (some "Straße")
      (some "Groß") (some "Maß") = .ok answer ∧ answer.rows.length = 1 := by
  intro m
  have reached : m.catalog.Reached fun _ _ => True := by
    refine (Catalog.Reached.start "Straße" .insensitive).after _ ?_
    simp [Operation.keepsCaseMode]
  have same (a b : String) (folds : m.catalog.sameIdentifier a b = true) :
      m.catalog.SameArgument (some a) (some b) := .some folds
  constructor
  · have views := (ignoresSpelling_of_reached reached).ask
      (.crossReference (some "STRASSE") (some "gross") (some "MASS"))
      (.crossReference (some "Straße") (some "Groß") (some "Maß"))
    exact views _ _ _ _ _ _
      (.crossReference (same _ _ (by decide +kernel)) (same _ _ (by decide +kernel))
        (same _ _ (by decide +kernel)))
      (same _ _ (by decide +kernel)) (same _ _ (by decide +kernel)) (same _ _ (by decide +kernel))
  · have coded : ∀ r ∈ m.selectedReferences (some "Groß") "Maß" (m.findTables (some "Groß") "Maß"),
        r.IsCoded := by
      decide +kernel
    have selected : m.catalog.isSelectedBy (some "Straße") = true := by decide +kernel
    simp only [crossReference_eq_ok_iff, selected, Bool.and_self, if_true, referenceTable_eq_ok_iff]
    refine ⟨_, ⟨"Maß", rfl, "Maß", rfl, rfl, coded, rfl⟩, ?_⟩
    rw [ResultTable.sortRows, List.length_mergeSort]
    decide +kernel

end Metadata

end CatalogViews
