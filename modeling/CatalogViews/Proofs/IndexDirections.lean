import CatalogViews.Proofs.FixtureContents
import CatalogViews.Proofs.Removal

/-!
# Directions of described indexes

A document lists the columns of an index that are sorted downwards next to its columns. The columns
are resolved like all names of columns, so each is stored in its declared spelling; the directions
are chosen before that, by comparing the texts of the two lists.

So the directions need not follow the identifiers (`IndexSpec.DirectionsFollow`). They do exactly
when every entry of the second list means a column of the index, and every column that an entry
means is written in the spelling of an entry (`IndexSpec.WritesDirections`). A document that does
not do so builds all the same: an entry that means no column at all is passed over.
-/

namespace CatalogViews

namespace IndexSpec

/-- The columns of a stored index that are sorted downwards are those that the described ones mean,
and each of the described ones means a column. -/
structure DirectionsFollow (mode : CaseMode) (spec : IndexSpec) (index : Index) : Prop where
  columns : ∀ column ∈ index.columns, (column.order = .descending ↔
    ∃ entry ∈ spec.descending, mode.same entry column.name = true)
  entries : ∀ entry ∈ spec.descending,
    ∃ column ∈ index.columns, mode.same entry column.name = true

/-- Each column of the index that an entry for the downward direction means is written as an entry,
and each entry means a column of the index. -/
structure WritesDirections (mode : CaseMode) (spec : IndexSpec) : Prop where
  columns : ∀ written ∈ spec.columns, ∀ entry ∈ spec.descending,
    mode.same entry written = true → written ∈ spec.descending
  entries : ∀ entry ∈ spec.descending,
    ∃ written ∈ spec.columns, mode.same entry written = true

/-- What an index of a document says about the stored one: its columns are resolved, and each is
sorted downwards exactly when its text is in the other list. -/
structure StoredAs (mode : CaseMode) (spec : IndexSpec) (table : Table) (index : Index) : Prop where
  name : index.name = spec.name
  columns : List.Forall₂ (fun written column => table.Spells mode written column.name ∧
    (column.order = .descending ↔ written ∈ spec.descending)) spec.columns index.columns
  follow_iff : spec.DirectionsFollow mode index ↔ spec.WritesDirections mode

variable {mode : CaseMode} {spec : IndexSpec} {table : Table} {index : Index}

theorem same_congr_of_spells {entry written stored : String}
    (spells : table.Spells mode written stored) :
    mode.same entry stored = mode.same entry written := by
  rw [CaseMode.same, CaseMode.same, CaseMode.Spells.same spells]

theorem Describes.directionsFollow_iff (describes : spec.Describes mode table index) :
    spec.DirectionsFollow mode index ↔ spec.WritesDirections mode := by
  have related := describes.columns
  have stored (written : String) (listed : written ∈ spec.columns) : ∃ column ∈ index.columns,
      table.Spells mode written column.name ∧
        (column.order = .descending ↔ written ∈ spec.descending) :=
    exists_mem_of_forall₂ related.flip listed
  constructor
  · intro follow
    constructor
    · intro written listed entry down same
      obtain ⟨column, member, spells, direction⟩ := stored written listed
      rw [← direction, follow.columns column member]
      exact ⟨entry, down, (same_congr_of_spells spells).trans same⟩
    · intro entry down
      obtain ⟨column, member, same⟩ := follow.entries entry down
      obtain ⟨written, listed, spells, -⟩ := exists_mem_of_forall₂ related member
      exact ⟨written, listed, (same_congr_of_spells spells).symm.trans same⟩
  · intro writes
    constructor
    · intro column member
      obtain ⟨written, listed, spells, direction⟩ := exists_mem_of_forall₂ related member
      rw [direction]
      constructor
      · intro down
        exact ⟨written, down, CaseMode.same_iff.mpr (CaseMode.Spells.same spells).symm⟩
      · intro ⟨entry, down, same⟩
        have same := (same_congr_of_spells spells).symm.trans same
        exact writes.columns written listed entry down same
    · intro entry down
      obtain ⟨written, listed, same⟩ := writes.entries entry down
      obtain ⟨column, member, spells, -⟩ := stored written listed
      exact ⟨column, member, (same_congr_of_spells spells).trans same⟩

end IndexSpec

namespace Fixture

variable {fixture : Fixture} {catalog : Catalog}

/-- Every described table is found under its names, with its indexes in the order of the
document. -/
theorem exists_indexes_of_build (built : fixture.build = .ok catalog)
    {described : String × TableSpec} (member : described ∈ fixture.tables) :
    ∃ table, catalog.tableIn? described.1 described.2.name = some table ∧
      List.Forall₂ (IndexSpec.StoredAs catalog.caseMode · table) described.2.indexes
        table.indexes := by
  have fills := fills_of_build built
  obtain ⟨table, kept, describes⟩ := fills.describes described member
  have resolved := schemaKey?_eq_some_placeOf fills.frame (mem_schemaNames_of_tables member)
    described.2.name
  refine ⟨table, ?_, describes.indexes.imp fun spec index here =>
    ⟨here.name, here.columns, here.directionsFollow_iff⟩⟩
  rw [Catalog.tableIn?_of_schemaKey? resolved, fills.frame.caseMode]
  exact kept

/-- The two columns of an index are written in other letter case than in the table, and the one that
is sorted downwards is written the same in both lists. -/
theorem indexes_of_folded_columns :
    let spec : IndexSpec := { name := "I", columns := ["NOTE", "id"], descending := ["NOTE"] }
    let fixture : Fixture := {
      name := "D", caseMode := .insensitive, schemas := [
        { name := "PUBLIC", tables := [{
          name := "T", indexes := [spec], columns := [
            { name := "Id", type := "integer" }, { name := "Note", type := "varchar" }] }] }] }
    ∃ catalog table index, fixture.build = .ok catalog ∧
      catalog.tableIn? "PUBLIC" "T" = some table ∧ table.indexes = [index] ∧
      spec.StoredAs catalog.caseMode table index ∧
      spec.DirectionsFollow catalog.caseMode index := by
  intro spec fixture
  have mode : fixture.build.toOption.map (·.caseMode) = some .insensitive := by decide +kernel
  obtain ⟨catalog, built, mode⟩ := exists_eq_ok_of_map_toOption mode
  have member : ("PUBLIC", _) ∈ fixture.tables := List.mem_singleton_self _
  obtain ⟨table, found, indexes⟩ := exists_indexes_of_build built member
  obtain ⟨index, none, stored, nothing, listed⟩ := List.forall₂_cons_left_iff.mp indexes
  rw [List.forall₂_nil_left_iff.mp nothing] at listed
  have writes : spec.WritesDirections catalog.caseMode := by
    rw [mode]
    constructor <;> decide +kernel
  exact ⟨catalog, table, index, built, found, listed, stored, stored.follow_iff.mpr writes⟩

/-- A column that is to be sorted downwards is written in other letter case, and another name means
no column. The document builds, and no column is sorted downwards. -/
theorem directions_miss_folded_names :
    let folded : IndexSpec := { name := "I", columns := ["A"], descending := ["a"] }
    let unknown : IndexSpec := { name := "J", columns := ["A"], descending := ["X"] }
    let fixture : Fixture := {
      name := "D", caseMode := .insensitive, schemas := [
        { name := "PUBLIC", tables := [{
          name := "T", columns := [{ name := "A", type := "INTEGER" }],
          indexes := [folded, unknown] }] }] }
    ∃ catalog table stored stored', fixture.build = .ok catalog ∧
      catalog.tableIn? "PUBLIC" "T" = some table ∧ table.indexes = [stored, stored'] ∧
      stored.columns = [⟨"A", .ascending⟩] ∧ stored'.columns = [⟨"A", .ascending⟩] ∧
      ¬folded.DirectionsFollow catalog.caseMode stored ∧
      ¬unknown.DirectionsFollow catalog.caseMode stored' := by
  intro folded unknown fixture
  have contents : (fixture.build.toOption.map fun catalog =>
      (catalog.caseMode, (catalog.tableIn? "PUBLIC" "T").map (·.indexes))) =
        some (.insensitive, some [
          { name := "I", table := "T", columns := [⟨"A", .ascending⟩] },
          { name := "J", table := "T", columns := [⟨"A", .ascending⟩] }]) := by
    decide +kernel
  obtain ⟨catalog, built, contents⟩ := exists_eq_ok_of_map_toOption contents
  obtain ⟨mode, indexes⟩ := Prod.mk.inj contents
  obtain ⟨table, found, listed⟩ := Option.map_eq_some_iff.mp indexes
  refine ⟨catalog, table, _, _, built, found, listed, rfl, rfl, ?_, ?_⟩
  · intro follow
    have down := (follow.columns ⟨"A", .ascending⟩ List.mem_cons_self).mpr
      ⟨"a", List.mem_cons_self, by rw [mode]; decide⟩
    cases down
  · intro follow
    obtain ⟨column, member, same⟩ := follow.entries "X" List.mem_cons_self
    rw [List.mem_singleton.mp member, mode] at same
    revert same
    decide

end Fixture

end CatalogViews
