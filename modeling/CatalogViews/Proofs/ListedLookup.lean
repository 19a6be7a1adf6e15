import CatalogViews.Proofs.Spellings
import CatalogViews.Proofs.TableListing

/-!
# Listing and lookup

There are two ways to the tables of a schema. One lists its tables and then its synonyms, each with
the table that it stands for; the other takes a name and tries the tables, then the synonyms, and
then the schema that the synonym refers to. `Catalog.ListsAsFound` says that both see the same
objects.

What joins them is that the names of all objects of a schema are different identifiers. So a name
has at most one entry, and it does not matter that the lookup tries the tables first. A synonym is
resolved anew each time on both ways: one whose target has gone is on neither, and it is back when a
table of that name is.
-/

namespace CatalogViews.Catalog

/-- The table that an entry of a schema stands for: a table of the schema itself, or the target of a
synonym in the schema that holds it. -/
inductive Locates (catalog : Catalog) (schema : Schema) : Entry → Located → Prop
  | table {table : Table} :
      Locates catalog schema (.table table) ⟨schema, catalog.caseMode.key table.name, table⟩
  | synonym {synonym : Synonym} {target : Located} : target.Kept catalog →
      catalog.sameIdentifier target.schema.name synonym.targetSchema = true →
      catalog.sameIdentifier target.table.name synonym.targetTable = true →
      Locates catalog schema (.synonym synonym target.table) target

/-- The target of a synonym does not exist. -/
def Dangles (catalog : Catalog) (synonym : Synonym) : Prop :=
  ∀ owner ∈ catalog.schemas.values,
    catalog.sameIdentifier owner.name synonym.targetSchema = true →
      ∀ table ∈ owner.tables.values,
        catalog.sameIdentifier table.name synonym.targetTable = false

/-- The listing of a schema and the lookup of names in it see the same objects. -/
structure ListsAsFound (catalog : Catalog) (schema : Schema) : Prop where
  finds_iff : ∀ name table,
    (∃ found, catalog.findTable? schema name = some found ∧ found.table = table) ↔
      ∃ entry, (catalog.entries schema none).filter (catalog.sameIdentifier ·.name name) =
        [entry] ∧ entry.definition = table
  locates : ∀ name found entry, catalog.findTable? schema name = some found →
    entry ∈ catalog.entries schema none → catalog.sameIdentifier entry.name name = true →
      catalog.Locates schema entry found
  names_distinct : catalog.caseMode.Distinguishes ((catalog.entries schema none).map (·.name))
  dangling : ∀ synonym ∈ schema.synonyms.values, catalog.Dangles synonym →
    (∀ entry ∈ catalog.entries schema none,
      catalog.sameIdentifier entry.name synonym.name = false) ∧
    ∀ name, catalog.sameIdentifier synonym.name name = true →
      catalog.findTable? schema name = none

variable {catalog : Catalog} {schema : Schema} {entry : Entry} {name : String} {found : Located}

theorem Locates.table_eq (locates : catalog.Locates schema entry found) :
    found.table = entry.definition := by
  cases locates <;> rfl

theorem sameIdentifier_iff {a b : String} :
    catalog.sameIdentifier a b = true ↔ catalog.caseMode.key a = catalog.caseMode.key b :=
  CaseMode.same_iff

theorem locates_of_target? (h : catalog.WellNamed) {synonym : Synonym}
    (stands : catalog.target? synonym = some found) :
    catalog.Locates schema (.synonym synonym found.table) found := by
  obtain ⟨owner, named, rest⟩ := Option.bind_eq_some_iff.mp stands
  obtain ⟨table, here, made⟩ := Option.bind_eq_some_iff.mp rest
  cases made
  obtain ⟨listed, sameSchema⟩ := h.schema?_eq_some_iff.mp named
  have names := (h.schema_wellNamed listed).tables
  have sameTable := (Keyed.find?_eq_some_iff_mem_values names).mp here
  exact .synonym ⟨listed, here⟩ (sameIdentifier_iff.mpr sameSchema)
    (sameIdentifier_iff.mpr sameTable.2)

theorem target?_eq_none_of_dangles (h : catalog.WellNamed) {synonym : Synonym}
    (dangles : catalog.Dangles synonym) : catalog.target? synonym = none := by
  by_contra stands
  obtain ⟨found, stands⟩ := Option.ne_none_iff_exists'.mp stands
  have target : (catalog.target? synonym).map (·.table) = some found.table := by
    rw [stands, Option.map_some]
  obtain ⟨owner, listed, sameSchema, owned, sameTable⟩ := (target?_table_iff h).mp target
  rw [dangles owner listed sameSchema found.table owned] at sameTable
  cases sameTable

section

variable (h : catalog.WellNamed) (listed : schema ∈ catalog.schemas.values)

include h listed

/-- A name with an entry is found, and what is found is what the entry stands for. -/
theorem exists_findTable? (member : entry ∈ catalog.entries schema none)
    (same : catalog.sameIdentifier entry.name name = true) :
    ∃ found, catalog.findTable? schema name = some found ∧ catalog.Locates schema entry found := by
  have spelled : catalog.findTable? schema entry.name = catalog.findTable? schema name :=
    congrFun (findTable?_congr same) schema
  rw [← spelled]
  cases ((mem_entries_iff h).mp member).1 with
  | @table table owned =>
    exact ⟨_, h.findTable?_own (h.kept_of_owned listed owned), .table⟩
  | @synonym synonym owner target owned listed' sameSchema targetOwned sameTable =>
    have stands := (target?_table_iff h).mpr
      ⟨owner, listed', sameSchema, targetOwned, sameTable⟩
    obtain ⟨found, stands, made⟩ := Option.map_eq_some_iff.mp stands
    refine ⟨found, (h.findTable?_synonym listed owned).trans stands, ?_⟩
    rw [← made]
    exact locates_of_target? h stands

/-- What is found has an entry under the name. -/
theorem exists_entry (here : catalog.findTable? schema name = some found) :
    ∃ entry ∈ catalog.entries schema none, catalog.sameIdentifier entry.name name = true := by
  have names := h.schema_wellNamed listed
  unfold findTable? at here
  split at here
  · rename_i table kept
    obtain ⟨owned, same⟩ := (Keyed.find?_eq_some_iff_mem_values names.tables).mp kept
    exact ⟨.table table, (mem_entries_iff h).mpr ⟨.table owned, rfl⟩, sameIdentifier_iff.mpr same⟩
  · obtain ⟨synonym, kept, stands⟩ := Option.bind_eq_some_iff.mp here
    obtain ⟨owned, same⟩ := (Keyed.find?_eq_some_iff_mem_values names.synonyms).mp kept
    have target : (catalog.target? synonym).map (·.table) = some found.table := by
      rw [stands, Option.map_some]
    obtain ⟨owner, listed', sameSchema, targetOwned, sameTable⟩ := (target?_table_iff h).mp target
    exact ⟨.synonym synonym found.table,
      (mem_entries_iff h).mpr ⟨.synonym owned listed' sameSchema targetOwned sameTable, rfl⟩,
      sameIdentifier_iff.mpr same⟩

/-- A name has one entry at most. -/
theorem filter_entries_eq_singleton (member : entry ∈ catalog.entries schema none)
    (same : catalog.sameIdentifier entry.name name = true) :
    (catalog.entries schema none).filter (catalog.sameIdentifier ·.name name) = [entry] := by
  have distinct : catalog.caseMode.Distinguishes ((catalog.entries schema none).map (·.name)) :=
    distinguishes_entries h listed
  rw [CaseMode.distinguishes_iff, List.map_map] at distinct
  have only : (catalog.entries schema none).filter (catalog.sameIdentifier ·.name name) =
      (catalog.entries schema none).filter (· == entry) := by
    apply List.filter_congr
    intro other member'
    rw [Bool.eq_iff_iff, beq_iff_eq, sameIdentifier_iff, ← sameIdentifier_iff.mp same]
    constructor
    · exact List.inj_on_of_nodup_map distinct member' member
    · intro equal
      rw [equal]
  rw [only, List.filter_beq, List.count_eq_one_of_mem distinct.of_map member, List.replicate_one]

theorem finds_iff (table : Table) :
    (∃ found, catalog.findTable? schema name = some found ∧ found.table = table) ↔
      ∃ entry, (catalog.entries schema none).filter (catalog.sameIdentifier ·.name name) =
        [entry] ∧ entry.definition = table := by
  constructor
  · intro ⟨found, here, same⟩
    obtain ⟨entry, member, named⟩ := exists_entry h listed here
    obtain ⟨found', here', locates⟩ := exists_findTable? h listed member named
    rw [here, Option.some.injEq] at here'
    refine ⟨entry, filter_entries_eq_singleton h listed member named, ?_⟩
    rw [← locates.table_eq, ← here', same]
  · intro ⟨entry, only, same⟩
    have selected : entry ∈ (catalog.entries schema none).filter
        (catalog.sameIdentifier ·.name name) := by
      rw [only]
      exact List.mem_singleton_self entry
    obtain ⟨member, named⟩ := List.mem_filter.mp selected
    obtain ⟨found, here, locates⟩ := exists_findTable? h listed member named
    exact ⟨found, here, locates.table_eq.trans same⟩

theorem findTable?_eq_none_of_dangles {synonym : Synonym}
    (owned : synonym ∈ schema.synonyms.values) (dangles : catalog.Dangles synonym)
    (same : catalog.sameIdentifier synonym.name name = true) :
    catalog.findTable? schema name = none := by
  have spelled : catalog.findTable? schema synonym.name = catalog.findTable? schema name :=
    congrFun (findTable?_congr same) schema
  rw [← spelled, h.findTable?_synonym listed owned, target?_eq_none_of_dangles h dangles]

end

/-- In every schema of a reached catalog. -/
theorem Reached.listsAsFound (reached : catalog.Reached fun _ _ => True)
    (listed : schema ∈ catalog.schemas.values) : catalog.ListsAsFound schema where
  finds_iff name table := finds_iff reached.wellNamed listed table
  locates name found entry here member same := by
    obtain ⟨found', here', locates⟩ := exists_findTable? reached.wellNamed listed member same
    rw [here, Option.some.injEq] at here'
    rw [here']
    exact locates
  names_distinct := distinguishes_entries reached.wellNamed listed
  dangling synonym owned dangles := by
    have h := reached.wellNamed
    refine ⟨fun entry member => ?_, fun name same =>
      findTable?_eq_none_of_dangles h listed owned dangles same⟩
    rw [Bool.eq_false_iff]
    intro same
    obtain ⟨found, here, -⟩ := exists_findTable? h listed member same
    rw [findTable?_eq_none_of_dangles h listed owned dangles (CaseMode.same_iff.mpr rfl)] at here
    cases here

/-- The target of one synonym has been dropped and created again in another spelling, that of the
other has been dropped only. -/
theorem listsAsFound_of_recreated_target :
    let table (name : String) : Table := { name, columns := [{ name := "A", type := .integer }] }
    let catalog := (started "C" .insensitive).after
      [.createSchema "S", .createTable (table "Maß"), .createTable (table "D"),
        .createSynonym "S" ⟨"Straße", "PUBLIC", "mass"⟩, .createSynonym "S" ⟨"Y", "public", "D"⟩,
        .dropTable "MASS", .dropTable "D", .createTable (table "MASS")]
    ∃ schema ∈ catalog.schemas.values, schema.name = "S" ∧
      (catalog.entries schema none).map (·.name) = ["Straße"] ∧
      (catalog.findTable? schema "STRASSE").map (·.table.name) = some "MASS" ∧
      catalog.findTable? schema "y" = none ∧ catalog.ListsAsFound schema := by
  intro table catalog
  have reached : catalog.Reached fun _ _ => True := by
    refine (Reached.start "C" .insensitive).after _ ?_
    simp [Operation.keepsCaseMode]
  have seen : ∃ schema ∈ catalog.schemas.values, schema.name = "S" ∧
      (catalog.entries schema none).map (·.name) = ["Straße"] ∧
      (catalog.findTable? schema "STRASSE").map (·.table.name) = some "MASS" ∧
      catalog.findTable? schema "y" = none := by
    decide +kernel
  obtain ⟨schema, listed, named, entries, recreated, gone⟩ := seen
  exact ⟨schema, listed, named, entries, recreated, gone, reached.listsAsFound listed⟩

end CatalogViews.Catalog
