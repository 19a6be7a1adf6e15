import CatalogViews.Proofs.CatalogContents
import CatalogViews.Proofs.MainSchema
import CatalogViews.Proofs.TableUpdates
import CatalogViews.Proofs.TextCuts

/-!
# Additions taken back

What adds an object to a catalog has a counterpart that removes it. An addition that succeeds has
checked that nothing else has the name, so the counterpart finds the new object and nothing but it,
and afterwards the catalog is the one before the addition (`Operation.Undone`). The one trace that
stays is that of a primary key, whose columns remain not null.

The two operations resolve the names of the schema and the table separately. They agree because an
addition to a schema leaves the keys of the schemas as they are.
-/

namespace CatalogViews

/-- The first point of a qualified name is the one after the schema. -/
theorem Catalog.qualify_append (catalog : Catalog) {schema : String} (table : String)
    (free : '.' ∉ schema.toList) : catalog.qualify (schema ++ "." ++ table) = (schema, table) := by
  have characters : (schema ++ "." ++ table).toList = schema.toList ++ '.' :: table.toList := by
    simp
  rw [Catalog.qualify, Text.cutText?, characters, Text.cut?_append table.toList free]
  simp

namespace Table

variable {mode : CaseMode} {table table' : Table} {name : String}

/-- Unique keys and foreign keys of a new name, at least one of them, are what a drop of the name
takes away. -/
theorem dropConstraint_append (keys : List Key) (foreignKeys : List ForeignKey)
    (unused : table.hasConstraint name = false) (named : ∀ key ∈ keys, key.name = name)
    (named' : ∀ fk ∈ foreignKeys, fk.name = name) (some : keys ≠ [] ∨ foreignKeys ≠ []) :
    dropConstraint name { table with
      uniqueKeys := table.uniqueKeys ++ keys
      foreignKeys := table.foreignKeys ++ foreignKeys } = .ok () table := by
  simp only [hasConstraint, Bool.or_eq_false_iff] at unused
  have kept : table.uniqueKeys.filter (·.name != name) = table.uniqueKeys :=
    Operation.filter_eq_self_of_partHas unused.1.2
  have kept' : table.foreignKeys.filter (·.name != name) = table.foreignKeys :=
    Operation.filter_eq_self_of_partHas unused.2
  have gone : keys.filter (·.name != name) = [] := by simpa using named
  have gone' : foreignKeys.filter (·.name != name) = [] := by simpa using named'
  have shorter : ¬(table.uniqueKeys.length = (table.uniqueKeys ++ keys).length ∧
      table.foreignKeys.length = (table.foreignKeys ++ foreignKeys).length) := by
    simpa [imp_iff_not_or] using some
  simp only [dropConstraint, unused.1.1, List.filter_append, kept, kept', gone, gone',
    List.append_nil, Bool.false_eq_true, if_false, if_neg shorter]

theorem dropConstraint_addUniqueKey {key : Key}
    (ran : addUniqueKey mode key table = .ok () table') :
    dropConstraint key.name table' = .ok () table := by
  obtain ⟨unused, columns, -, rfl⟩ := addUniqueKey_eq_ok ran
  have dropped := dropConstraint_append [⟨key.name, columns⟩] [] unused (by simp) (by simp)
    (by simp)
  rw [List.append_nil] at dropped
  exact dropped

theorem dropConstraint_addForeignKey {fk : ForeignKey}
    (ran : addForeignKey mode fk table = .ok () table') :
    dropConstraint fk.name table' = .ok () table := by
  obtain ⟨unused, columns, -, rfl⟩ := addForeignKey_eq_ok ran
  have dropped := dropConstraint_append [] [{ fk with columns }] unused (by simp) (by simp)
    (by simp)
  rw [List.append_nil] at dropped
  exact dropped

/-- The columns stay as the key has left them. -/
theorem dropConstraint_addPrimaryKey {key : Key}
    (ran : addPrimaryKey mode key table = .ok () table') :
    ∃ names, table.spellings mode key.columns = .ok names ∧
      List.Forall₂ (Column.SameOrRequired names) table.columns table'.columns ∧
      dropConstraint key.name table' = .ok () { table with columns := table'.columns } := by
  obtain ⟨free, -, names, spelled, rfl⟩ := addPrimaryKey_eq_ok ran
  have dropped : dropConstraint key.name (table.withPrimaryKey ⟨key.name, names⟩) =
      .ok () { table.withPrimaryKey ⟨key.name, names⟩ with primaryKey := none } := by
    simp [dropConstraint, withPrimaryKey]
  refine ⟨names, spelled, forall₂_withPrimaryKey table ⟨key.name, names⟩, ?_⟩
  rw [dropped, ← free]
  rfl

/-- The first index of the name is the new one. -/
theorem dropIndex_addIndex {index : Index} (tableName : String)
    (ran : addIndex mode index table = .ok () table') :
    ∃ stored, table.respell mode index = .ok stored ∧ table'.indexes = table.indexes ++ [stored] ∧
      dropIndex tableName index.name table' = .ok stored table := by
  obtain ⟨unused, stored, spelled, rfl⟩ := addIndex_eq_ok ran
  have named : stored.name = index.name := (respell_eq_ok spelled).1
  have others : ∀ other ∈ table.indexes, ¬(other.name == index.name) = true := by
    simpa [index?] using unused
  have found : (table.indexes ++ [stored]).find? (·.name == index.name) = some stored := by
    rw [List.find?_append, List.find?_eq_none.mpr others]
    simp [named]
  have left : (table.indexes ++ [stored]).eraseP (·.name == index.name) = table.indexes := by
    rw [List.eraseP_append_right _ others]
    simp [named]
  refine ⟨stored, spelled, rfl, ?_⟩
  simp only [dropIndex, index?, found, left]

end Table

namespace Catalog

variable {catalog catalog' : Catalog} {schema name key place : String} {α β : Type}

theorem withTable_withTable (old new : Table) :
    (catalog.withTable key place old).withTable key place new =
      catalog.withTable key place new := by
  cases found : catalog.schemas.find? key with
  | none => simp only [withTable, found]
  | some owner =>
    rw [withTable_eq found, withTable_eq found, withTable, Keyed.find?_replace found, if_pos rfl]
    simp only [Keyed.replace_replace]

theorem withTable_self {old : Table} (kept : catalog.tableAt? key place = some old) :
    catalog.withTable key place old = catalog := by
  obtain ⟨owner, found, kept⟩ := tableAt?_eq_some_iff.mp kept
  rw [withTable_eq found]
  simp only [Keyed.replace_eq_self kept, Keyed.replace_eq_self found]

theorem schemaKey?_withTable (new : Table) (name : String) :
    (catalog.withTable key place new).schemaKey? name = catalog.schemaKey? name := by
  unfold withTable
  split
  · rfl
  · exact schemaKey?_replace _ name

theorem withTable_caseMode (new : Table) :
    (catalog.withTable key place new).caseMode = catalog.caseMode := by
  unfold withTable
  split <;> rfl

theorem tableIn?_of_schemaKey? (resolved : catalog.schemaKey? schema = some key) :
    catalog.tableIn? schema name = catalog.tableAt? key (catalog.caseMode.key name) := by
  rw [tableIn?, schema?, resolved]
  rfl

/-- A schema that was edited is found again under the same name, for the next edit. -/
theorem onSchema_again {edit : CaseMode → Edit Schema α} {answer : α}
    (ran : onSchema schema edit catalog = .ok answer catalog') :
    ∃ owner owner', edit catalog.caseMode owner = .ok answer owner' ∧
      ∀ (back : CaseMode → Edit Schema β) (result : β),
        back catalog.caseMode owner' = .ok result owner →
          onSchema schema back catalog' = .ok result catalog := by
  obtain ⟨key, owner, owner', resolved, found, edited, rfl⟩ := onSchema_eq_ok_iff.mp ran
  refine ⟨owner, owner', edited, fun back result taken => ?_⟩
  refine onSchema_eq_ok_iff.mpr ⟨key, owner', owner, ?_, ?_, taken, ?_⟩
  · exact (schemaKey?_replace owner' schema).trans resolved
  · rw [Keyed.find?_replace found, if_pos rfl]
  · simp only [Keyed.replace_replace, Keyed.replace_eq_self found]

/-- A table that was edited is found again under the same names, for the next edit. -/
theorem onTable_again {edit : CaseMode → Edit Table α} {answer : α}
    (ran : onTable schema name edit catalog = .ok answer catalog') :
    ∃ key old new, catalog.schemaKey? schema = some key ∧
      catalog.tableAt? key (catalog.caseMode.key name) = some old ∧
      catalog'.tableIn? schema name = some new ∧ edit catalog.caseMode old = .ok answer new ∧
      ∀ (back : CaseMode → Edit Table β) (result : β) (newer : Table),
        back catalog.caseMode new = .ok result newer →
          onTable schema name back catalog' =
            .ok result (catalog.withTable key (catalog.caseMode.key name) newer) := by
  obtain ⟨key, old, new, resolved, kept, edited, rfl⟩ := onTable_eq_ok_iff.mp ran
  have kept' : (catalog.withTable key (catalog.caseMode.key name) new).tableAt? key
      (catalog.caseMode.key name) = some new := by
    rw [tableAt?_withTable kept, if_pos ⟨rfl, rfl⟩]
  have resolved' : (catalog.withTable key (catalog.caseMode.key name) new).schemaKey? schema =
      some key := by
    rw [schemaKey?_withTable, resolved]
  refine ⟨key, old, new, resolved, kept, ?_, edited, fun back result newer taken => ?_⟩
  · rw [tableIn?_of_schemaKey? resolved', withTable_caseMode, kept']
  · refine onTable_eq_ok_iff.mpr ⟨key, new, newer, resolved', ?_, ?_, ?_⟩
    · rw [withTable_caseMode, kept']
    · rw [withTable_caseMode, taken]
    · rw [withTable_caseMode, withTable_withTable]

/-- The new schema is empty, is not the main one and is not the current one. -/
theorem dropSchema_createSchema (h : catalog.Anchored)
    (ran : createSchema name catalog = .ok () catalog') :
    dropSchema name false catalog' = .ok () catalog := by
  unfold createSchema at ran
  split at ran
  · cases ran
  · rename_i free
    cases ran
    have fresh : catalog.schemas.find? name = none :=
      find?_schemas_of_schema?_eq_none (by simpa using free)
    have unused : name ∉ catalog.schemas.keys := Keyed.find?_eq_none_iff.mp fresh
    have other : name ≠ mainSchemaName := fun same => unused (same ▸ h.main)
    have elsewhere : catalog.currentSchema ≠ name := fun same => unused (same ▸ h.current)
    have added : (catalog.schemas.insertNew name (Schema.empty name)).find? name =
        some (Schema.empty name) := by
      rw [Keyed.find?_insertNew fresh, if_pos rfl]
    have resolved : schemaKey? { catalog with
        schemas := catalog.schemas.insertNew name (Schema.empty name) } name = some name := by
      simp only [schemaKey?, Keyed.contains_eq_isSome_find?, added, Option.isSome_some, if_true]
    have empty : (Schema.empty name).isEmpty = true := rfl
    simp [dropSchema, resolved, other, added, empty, elsewhere, Keyed.erase_insertNew fresh]

theorem dropTable_createTableIn {table : Table} (free : '.' ∉ schema.toList)
    (ran : createTableIn schema table catalog = .ok () catalog') :
    dropTable (schema ++ "." ++ table.name) catalog' = .ok () catalog := by
  obtain ⟨owner, owner', created, back⟩ := onSchema_again ran
  unfold dropTable
  rw [qualify_append catalog' table.name free]
  apply back
  unfold Schema.createTable at created
  split at created
  · cases created
  · rename_i unused
    cases created
    have fresh := (Schema.find?_eq_none_of_hasKey (Bool.eq_false_iff.mpr unused)).1
    refine Edit.discard_eq_ok_iff.mpr ⟨table, ?_⟩
    simp only [Schema.dropTable, Schema.table?, Keyed.find?_insertNew fresh, if_true,
      Keyed.erase_insertNew fresh]

theorem dropSynonym_createSynonym {synonym : Synonym}
    (ran : createSynonym schema synonym catalog = .ok () catalog') :
    dropSynonym schema synonym.name catalog' = .ok () catalog := by
  unfold createSynonym at ran
  split at ran
  · cases ran
  · obtain ⟨owner, owner', created, back⟩ := onSchema_again ran
    apply back
    unfold Schema.createSynonym at created
    split at created
    · cases created
    · rename_i unused
      cases created
      have fresh := (Schema.find?_eq_none_of_hasKey (Bool.eq_false_iff.mpr unused)).2
      refine Edit.discard_eq_ok_iff.mpr ⟨synonym, ?_⟩
      simp only [Schema.dropSynonym, Schema.synonym?, Keyed.find?_insertNew fresh, if_true,
        Keyed.erase_insertNew fresh]

/-- An edit of a table that another one takes back. -/
theorem onTable_undo {edit : CaseMode → Edit Table Unit} {back : CaseMode → Edit Table Unit}
    (undo : ∀ mode table table', edit mode table = .ok () table' → back mode table' = .ok () table)
    (ran : onTable schema name edit catalog = .ok () catalog') :
    onTable schema name back catalog' = .ok () catalog := by
  obtain ⟨key, old, new, -, kept, -, edited, again⟩ := onTable_again ran
  rw [again back () old (undo _ _ _ edited), withTable_self kept]

theorem dropConstraint_addForeignKey {fk : ForeignKey}
    (ran : addForeignKey schema name fk catalog = .ok () catalog') :
    dropConstraint schema name fk.name catalog' = .ok () catalog := by
  unfold addForeignKey at ran
  split at ran
  · cases ran
  · rename_i resolved resolution
    have named : resolved.name = fk.name := by
      obtain ⟨-, _, _, _, _, -, -, -, -, rfl⟩ := resolveForeignKey_eq_ok resolution
      rfl
    rw [← named]
    exact onTable_undo (fun _ _ _ => Table.dropConstraint_addForeignKey) ran

end Catalog

namespace Operation

/-- The removal that goes with an addition succeeds and gives the catalog before the addition, but
for the columns of a primary key, which stay not null. A table is dropped by its qualified name,
where a point in the name of the schema would be taken for the one after it. Other operations have
no such removal. -/
def Undone (catalog catalog' : Catalog) : Operation → Prop
  | createSchema name => (dropSchema name false).perform catalog' = .ok () catalog
  | createTableIn schema table =>
    '.' ∉ schema.toList →
      (dropTable (schema ++ "." ++ table.name)).perform catalog' = .ok () catalog
  | createSynonym schema synonym =>
    (dropSynonym schema synonym.name).perform catalog' = .ok () catalog
  | setPrimaryKey schema table key =>
    ∃ place old names columns, catalog.schemaKey? schema = some place ∧
      catalog.tableAt? place (catalog.caseMode.key table) = some old ∧
      old.spellings catalog.caseMode key.columns = .ok names ∧
      List.Forall₂ (Column.SameOrRequired names) old.columns columns ∧
      (dropConstraint schema table key.name).perform catalog' =
        .ok () (catalog.withTable place (catalog.caseMode.key table) { old with columns })
  | addUniqueKey schema table key =>
    (dropConstraint schema table key.name).perform catalog' = .ok () catalog
  | addForeignKey schema table fk =>
    (dropConstraint schema table fk.name).perform catalog' = .ok () catalog
  | addIndex schema index =>
    ∃ stored, catalog'.indexesOf schema index.table =
        catalog.indexesOf schema index.table ++ [stored] ∧ stored.name = index.name ∧
      Catalog.dropIndex schema index.table index.name catalog' = .ok stored catalog
  | _ => True

variable {operation : Operation} {catalog catalog' : Catalog}

theorem undone_setPrimaryKey {schema table : String} {key : Key}
    (ran : Catalog.setPrimaryKey schema table key catalog = .ok () catalog') :
    (setPrimaryKey schema table key).Undone catalog catalog' := by
  obtain ⟨place, old, new, resolved, kept, -, edited, again⟩ := Catalog.onTable_again ran
  obtain ⟨names, spelled, required, dropped⟩ := Table.dropConstraint_addPrimaryKey edited
  exact ⟨place, old, names, new.columns, resolved, kept, spelled, required,
    again (fun _ => Table.dropConstraint key.name) () _ dropped⟩

theorem undone_addIndex {schema : String} {index : Index}
    (ran : Catalog.addIndex schema index catalog = .ok () catalog') :
    (addIndex schema index).Undone catalog catalog' := by
  obtain ⟨place, old, new, resolved, kept, kept', edited, again⟩ := Catalog.onTable_again ran
  obtain ⟨stored, spelled, indexes, dropped⟩ := Table.dropIndex_addIndex index.table edited
  refine ⟨stored, ?_, (Table.respell_eq_ok spelled).1, ?_⟩
  · simp only [Catalog.indexesOf, Catalog.tableIn?_of_schemaKey? resolved, kept, kept', indexes]
  · have taken := again (fun _ => Table.dropIndex index.table index.name) stored old dropped
    rw [Catalog.withTable_self kept] at taken
    exact taken

/-- Each removal takes its addition back: while the case mode stays what it was at the start, what
has been added can be removed, and this gives the catalog from before. -/
theorem undone_of_ok (reached : catalog.Reached fun _ _ => True)
    (ran : operation.perform catalog = .ok () catalog') : operation.Undone catalog catalog' := by
  cases operation with
  | createSchema name => exact Catalog.dropSchema_createSchema reached.anchored ran
  | createTableIn schema table => exact fun free => Catalog.dropTable_createTableIn free ran
  | createSynonym schema synonym => exact Catalog.dropSynonym_createSynonym ran
  | setPrimaryKey schema table key => exact undone_setPrimaryKey ran
  | addUniqueKey schema table key =>
    exact Catalog.onTable_undo (fun _ _ _ => Table.dropConstraint_addUniqueKey) ran
  | addForeignKey schema table fk => exact Catalog.dropConstraint_addForeignKey ran
  | addIndex schema index => exact undone_addIndex ran
  | _ => trivial

/-- Other spellings of the name of the schema, and a second point in the qualified name. -/
theorem undone_of_expanding_folds :
    let catalog := (Catalog.started "C" .insensitive).after
      [.createSchema "Straße", .createTableIn "STRAßE" { name := "T", columns := [] }]
    let addition : Operation := .createTableIn "STRASSE" { name := "a.b", columns := [] }
    let catalog' := addition.applyTo catalog
    addition.perform catalog = .ok () catalog' ∧ catalog' ≠ catalog ∧
      (Operation.dropTable "STRASSE.a.b").perform catalog' = .ok () catalog := by
  intro catalog addition catalog'
  have reached : catalog.Reached fun _ _ => True := by
    refine (Catalog.Reached.start "C" .insensitive).after _ ?_
    simp [Operation.keepsCaseMode]
  have changed : catalog' ≠ catalog := by decide +kernel
  have ran : addition.perform catalog = .ok () catalog' := perform_of_changed rfl changed
  exact ⟨ran, changed, undone_of_ok reached ran (by decide)⟩

end Operation

end CatalogViews
