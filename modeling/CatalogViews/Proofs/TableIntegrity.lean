import CatalogViews.Proofs.CatalogSteps
import Mathlib.Data.List.Flatten
import Mathlib.Tactic.Tauto

/-!
# The integrity of tables

Every table of a reached catalog is `Table.WellFormed`: its keys, foreign keys and indexes name
columns that it has, in the spelling that it has for them; the columns of its primary key are not
null; the two sides of a foreign key pair up; constraints and indexes have names of their own.

Two columns may have names that are the same identifier, even the same name. A lookup then finds the
first, and a stored spelling is that of a first column. This is why the exact lookup and the lookup
that folds case agree on every stored name, and why only the list of the column names matters for
it.
-/

namespace CatalogViews

namespace Table

/-- The names of the columns that keys, foreign keys and indexes of the table mention. -/
def mentioned (table : Table) : List String :=
  table.primaryKey.toList.flatMap (·.columns) ++ table.uniqueKeys.flatMap (·.columns) ++
    table.foreignKeys.flatMap (·.columns) ++ table.indexes.flatMap (·.columns.map (·.name))

/-- The names of the primary key, the unique keys and the foreign keys. -/
def constraintNames (table : Table) : List String :=
  table.primaryKey.toList.map (·.name) ++ table.uniqueKeys.map (·.name) ++
    table.foreignKeys.map (·.name)

/-- The exact lookup of a name and the lookup that the case mode asks for find the same column. -/
def Resolves (mode : CaseMode) (table : Table) (name : String) : Prop :=
  ∃ column, table.column? name = some column ∧ table.findColumn? mode name = some column

/-- The column of exactly that name is not null. -/
def Requires (table : Table) (name : String) : Prop :=
  ∃ column, table.column? name = some column ∧ column.nullable = false

/-- What every table of a reached catalog satisfies. -/
structure WellFormed (mode : CaseMode) (table : Table) : Prop where
  resolves : ∀ name ∈ table.mentioned, table.Resolves mode name
  requires : ∀ key ∈ table.primaryKey, ∀ name ∈ key.columns, table.Requires name
  paired : ∀ fk ∈ table.foreignKeys, fk.columns.length = fk.parentColumns.length
  constraintNames_nodup : table.constraintNames.Nodup
  indexNames_nodup : (table.indexes.map (·.name)).Nodup
  owned : ∀ index ∈ table.indexes, index.table = table.name

variable {mode : CaseMode} {table table' : Table} {name : String}

/-- A table without constraints and indexes is well-formed. -/
theorem WellFormed.of_bare (noKey : table.primaryKey = none) (noUniqueKeys : table.uniqueKeys = [])
    (noForeignKeys : table.foreignKeys = []) (noIndexes : table.indexes = []) :
    table.WellFormed mode := by
  constructor <;> simp [mentioned, constraintNames, noKey, noUniqueKeys, noForeignKeys, noIndexes]

/-- Whether a name resolves depends on the list of the column names only. -/
theorem resolves_iff :
    table.Resolves mode name ↔
      (table.columns.map (·.name)).find? (mode.same · name) = some name := by
  rw [List.find?_map, Option.map_eq_some_iff]
  constructor
  · rintro ⟨column, exactly, folded⟩
    exact ⟨column, folded, by simpa using List.find?_some exactly⟩
  · rintro ⟨column, folded, rfl⟩
    refine ⟨column, ?_, folded⟩
    rw [List.find?_eq_some_iff_append] at folded
    obtain ⟨-, before, after, split, others⟩ := folded
    rw [column?, List.find?_eq_some_iff_append]
    refine ⟨by simp, before, after, split, fun other member => ?_⟩
    have different := others other member
    simp only [Function.comp_apply, CaseMode.same, Bool.not_eq_eq_eq_not, Bool.not_true,
      beq_eq_false_iff_ne, ne_eq] at different ⊢
    exact fun same => different (congrArg mode.key same)

theorem Resolves.of_columnNames (resolves : table.Resolves mode name)
    (sameNames : table'.columns.map (·.name) = table.columns.map (·.name)) :
    table'.Resolves mode name := by
  rw [resolves_iff, sameNames]
  exact resolves_iff.mp resolves

/-- The spelling of a name is the same identifier as the name, so the same column is found under
both. -/
theorem resolves_of_spelling {spelled : String}
    (h : table.spelling mode name = .ok spelled) : table.Resolves mode spelled := by
  unfold spelling at h
  split at h
  · rename_i column found
    cases h
    rw [findColumn?] at found
    have same : mode.key column.name = mode.key name := by
      simpa [CaseMode.same_iff] using List.find?_some found
    rw [resolves_iff, List.find?_map, Option.map_eq_some_iff]
    refine ⟨column, ?_, rfl⟩
    rw [← found]
    simp only [CaseMode.same, same, Function.comp_def]
  · cases h

theorem resolves_of_spellings {names columns : List String}
    (h : table.spellings mode names = .ok columns) :
    ∀ name ∈ columns, table.Resolves mode name := by
  intro name member
  obtain ⟨_, -, spelled⟩ := mem_of_mapM_eq_ok h member
  exact resolves_of_spelling spelled

theorem respell_eq_ok {index stored : Index} (h : table.respell mode index = .ok stored) :
    stored.name = index.name ∧ stored.table = table.name ∧
      ∀ name ∈ stored.columns.map (·.name), table.Resolves mode name := by
  unfold respell at h
  obtain ⟨columns, spelled, h⟩ := bind_eq_ok_iff.mp h
  cases h
  refine ⟨rfl, rfl, fun name member => ?_⟩
  obtain ⟨column, stored, rfl⟩ := List.mem_map.mp member
  obtain ⟨given, -, made⟩ := mem_of_mapM_eq_ok spelled stored
  obtain ⟨spelling, spelled, h⟩ := bind_eq_ok_iff.mp made
  cases h
  exact resolves_of_spelling spelled

theorem map_name_requireColumn (required : String) (columns : List Column) :
    (requireColumn required columns).map (·.name) = columns.map (·.name) := by
  induction columns with
  | nil => rfl
  | cons column columns ih =>
    unfold requireColumn
    split
    · rfl
    · rw [List.map_cons, List.map_cons, ih]

theorem find?_requireColumn (required name : String) (columns : List Column) :
    (requireColumn required columns).find? (·.name == name) =
      if required = name then
        (columns.find? (·.name == name)).map fun column => { column with nullable := false }
      else columns.find? (·.name == name) := by
  induction columns with
  | nil => simp [requireColumn]
  | cons column columns ih =>
    unfold requireColumn
    split
    · rename_i here
      subst here
      by_cases same : column.name = name <;> simp [same]
    · rename_i elsewhere
      rw [List.find?_cons, List.find?_cons]
      by_cases same : column.name = name
      · have other : required ≠ name := fun h => elsewhere (same.trans h.symm)
        simp [same, other]
      · have other : (column.name == name) = false := by simpa using same
        simp only [other]
        exact ih

/-- The columns with those of a key made not null one after the other. -/
theorem map_name_requireColumns (names : List String) (columns : List Column) :
    (names.foldl (fun columns name => requireColumn name columns) columns).map (·.name) =
      columns.map (·.name) := by
  induction names generalizing columns with
  | nil => rfl
  | cons name names ih => rw [List.foldl_cons, ih, map_name_requireColumn]

/-- Once a column is not null it stays so while others are made not null. -/
theorem find?_requireColumns (names : List String) (columns : List Column) :
    (names.foldl (fun columns name => requireColumn name columns) columns).find?
        (·.name == name) =
      if name ∈ names then
        (columns.find? (·.name == name)).map fun column => { column with nullable := false }
      else columns.find? (·.name == name) := by
  induction names generalizing columns with
  | nil => simp
  | cons required names ih =>
    rw [List.foldl_cons, ih, find?_requireColumn]
    by_cases here : required = name
    · simp [here, Option.map_map, Function.comp_def]
    · have here' : ¬name = required := fun h => here h.symm
      simp [here, here']

theorem requires_withPrimaryKey {key : Key} (resolves : table.Resolves mode name)
    (member : name ∈ key.columns) : (table.withPrimaryKey key).Requires name := by
  obtain ⟨column, found, -⟩ := resolves
  rw [column?] at found
  refine ⟨{ column with nullable := false }, ?_, rfl⟩
  simp only [column?, Table.withPrimaryKey, find?_requireColumns, if_pos member, found,
    Option.map_some]

theorem hasConstraint_iff :
    table.hasConstraint name = true ↔ name ∈ table.constraintNames := by
  simp only [hasConstraint, constraintNames, Bool.or_eq_true, Option.any_eq_true,
    List.any_eq_true, List.mem_append, List.mem_map, Option.mem_toList, beq_iff_eq]

theorem index?_eq_none_iff : table.index? name = none ↔ name ∉ table.indexes.map (·.name) := by
  simp [index?]

/-- A table stays well-formed when constraints and indexes are taken away. -/
theorem WellFormed.of_sublists (h : table.WellFormed mode) (sameName : table'.name = table.name)
    (sameColumns : table'.columns = table.columns)
    (primaryKey : table'.primaryKey.toList.Sublist table.primaryKey.toList)
    (uniqueKeys : table'.uniqueKeys.Sublist table.uniqueKeys)
    (foreignKeys : table'.foreignKeys.Sublist table.foreignKeys)
    (indexes : table'.indexes.Sublist table.indexes) : table'.WellFormed mode where
  resolves := by
    have fewer : table'.mentioned.Sublist table.mentioned :=
      (((primaryKey.flatMap _).append (uniqueKeys.flatMap _)).append
        (foreignKeys.flatMap _)).append (indexes.flatMap _)
    intro name member
    exact (h.resolves name (fewer.subset member)).of_columnNames (by rw [sameColumns])
  requires := by
    intro key member name mentioned
    have kept : key ∈ table.primaryKey :=
      Option.mem_toList.mp (primaryKey.subset (Option.mem_toList.mpr member))
    simpa only [Requires, column?, sameColumns] using h.requires key kept name mentioned
  paired fk member := h.paired fk (foreignKeys.subset member)
  constraintNames_nodup :=
    (((primaryKey.map _).append (uniqueKeys.map _)).append (foreignKeys.map _)).nodup
      h.constraintNames_nodup
  indexNames_nodup := (indexes.map _).nodup h.indexNames_nodup
  owned index member := by
    rw [sameName]
    exact h.owned index (indexes.subset member)

/-- A table that mentions more columns still resolves all if it does the added ones. -/
theorem WellFormed.resolves_added (h : table.WellFormed mode) {added : List String}
    (resolves : ∀ name ∈ added, table.Resolves mode name)
    (sameNames : table'.columns.map (·.name) = table.columns.map (·.name))
    (more : ∀ name ∈ table'.mentioned, name ∈ added ∨ name ∈ table.mentioned) :
    ∀ name ∈ table'.mentioned, table'.Resolves mode name := by
  intro name member
  rcases more name member with new | old
  · exact (resolves name new).of_columnNames sameNames
  · exact (h.resolves name old).of_columnNames sameNames

theorem WellFormed.withPrimaryKey {key : Key} (h : table.WellFormed mode)
    (noKey : table.primaryKey = none) (free : key.name ∉ table.constraintNames)
    (resolves : ∀ name ∈ key.columns, table.Resolves mode name) :
    (table.withPrimaryKey key).WellFormed mode where
  resolves := by
    refine h.resolves_added resolves (map_name_requireColumns key.columns table.columns) ?_
    intro name member
    simpa [mentioned, Table.withPrimaryKey, noKey, or_assoc] using member
  requires := by
    rintro _ ⟨⟩ name member
    exact requires_withPrimaryKey (resolves name member) member
  paired := h.paired
  constraintNames_nodup := by
    have more : (table.withPrimaryKey key).constraintNames = key.name :: table.constraintNames := by
      simp [constraintNames, Table.withPrimaryKey, noKey]
    rw [more, List.nodup_cons]
    exact ⟨free, h.constraintNames_nodup⟩
  indexNames_nodup := h.indexNames_nodup
  owned := h.owned

theorem WellFormed.addUniqueKey {key : Key} (h : table.WellFormed mode)
    (free : key.name ∉ table.constraintNames)
    (resolves : ∀ name ∈ key.columns, table.Resolves mode name) :
    ({ table with uniqueKeys := table.uniqueKeys ++ [key] } : Table).WellFormed mode where
  resolves := by
    refine h.resolves_added resolves rfl fun name member => ?_
    simp only [mentioned, List.flatMap_append, List.flatMap_singleton, List.mem_append]
      at member ⊢
    tauto
  requires := h.requires
  paired := h.paired
  constraintNames_nodup := by
    have more :
        ({ table with uniqueKeys := table.uniqueKeys ++ [key] } : Table).constraintNames.Perm
          (key.name :: table.constraintNames) := by
      simp only [constraintNames, List.map_append, List.map_singleton, ← List.append_assoc]
      rw [List.append_assoc _ [key.name]]
      exact List.perm_middle
    rw [more.nodup_iff, List.nodup_cons]
    exact ⟨free, h.constraintNames_nodup⟩
  indexNames_nodup := h.indexNames_nodup
  owned := h.owned

theorem WellFormed.addForeignKey {fk : ForeignKey} (h : table.WellFormed mode)
    (free : fk.name ∉ table.constraintNames)
    (resolves : ∀ name ∈ fk.columns, table.Resolves mode name)
    (paired : fk.columns.length = fk.parentColumns.length) :
    ({ table with foreignKeys := table.foreignKeys ++ [fk] } : Table).WellFormed mode where
  resolves := by
    refine h.resolves_added resolves rfl fun name member => ?_
    simp only [mentioned, List.flatMap_append, List.flatMap_singleton, List.mem_append]
      at member ⊢
    tauto
  requires := h.requires
  paired := by
    simp only [List.forall_mem_append, List.forall_mem_singleton]
    exact ⟨h.paired, paired⟩
  constraintNames_nodup := by
    have more : ({ table with foreignKeys := table.foreignKeys ++ [fk] } : Table).constraintNames =
        table.constraintNames ++ [fk.name] := by
      simp [constraintNames]
    rw [more, ← List.concat_eq_append, List.nodup_concat]
    exact ⟨free, h.constraintNames_nodup⟩
  indexNames_nodup := h.indexNames_nodup
  owned := h.owned

theorem WellFormed.addIndex {index : Index} (h : table.WellFormed mode)
    (free : index.name ∉ table.indexes.map (·.name))
    (resolves : ∀ name ∈ index.columns.map (·.name), table.Resolves mode name)
    (owned : index.table = table.name) :
    ({ table with indexes := table.indexes ++ [index] } : Table).WellFormed mode where
  resolves := by
    refine h.resolves_added resolves rfl fun name member => ?_
    simp only [mentioned, List.flatMap_append, List.flatMap_singleton, List.mem_append]
      at member ⊢
    tauto
  requires := h.requires
  paired := h.paired
  constraintNames_nodup := h.constraintNames_nodup
  indexNames_nodup := by
    rw [List.map_append, List.map_singleton, ← List.concat_eq_append, List.nodup_concat]
    exact ⟨free, h.indexNames_nodup⟩
  owned := by
    simp only [List.forall_mem_append, List.forall_mem_singleton]
    exact ⟨h.owned, owned⟩

/-- A step keeps a table well-formed. -/
theorem Step.wellFormed (step : Step mode table table') (h : table.WellFormed mode) :
    table'.WellFormed mode := by
  cases step with
  | addPrimaryKey noKey free spelled =>
    exact h.withPrimaryKey noKey (fun used => by simp [hasConstraint_iff.mpr used] at free)
      (resolves_of_spellings spelled)
  | addUniqueKey free spelled =>
    exact h.addUniqueKey (fun used => by simp [hasConstraint_iff.mpr used] at free)
      (resolves_of_spellings spelled)
  | addForeignKey free spelled paired =>
    refine h.addForeignKey (fun used => by simp [hasConstraint_iff.mpr used] at free)
      (resolves_of_spellings spelled) ?_
    exact (mapM_eq_ok_iff.mp spelled).length_eq.symm.trans paired
  | dropPrimaryKey found =>
    exact h.of_sublists rfl rfl (List.nil_sublist _) (.refl _) (.refl _) (.refl _)
  | dropNamed name other =>
    exact h.of_sublists rfl rfl (.refl _) List.filter_sublist List.filter_sublist (.refl _)
  | addIndex free spelled =>
    obtain ⟨sameName, owned, resolves⟩ := respell_eq_ok spelled
    refine h.addIndex ?_ resolves owned
    rw [sameName]
    exact index?_eq_none_iff.mp free
  | dropIndex found =>
    exact h.of_sublists rfl rfl (.refl _) (.refl _) (.refl _) List.eraseP_sublist

end Table

namespace Catalog

theorem Reached.wellFormed_of_find? {catalog : Catalog}
    (reached : catalog.Reached fun mode table => table.WellFormed mode)
    {schemaKey key : String} {schema : Schema} {table : Table}
    (foundSchema : catalog.schemas.find? schemaKey = some schema)
    (found : schema.tables.find? key = some table) : table.WellFormed catalog.caseMode := by
  refine reached.forall_schemas (motive := fun mode _ schema => ∀ key table,
    schema.tables.find? key = some table → table.WellFormed mode) ?_ ?_ ?_
    schemaKey schema foundSchema key table found
  · intro mode name key table found
    cases found
  · intro mode schemaKey schema schema' step h
    exact step.forall_tables (fun _ handed => handed) (fun _ _ _ step h => step.wellFormed h) h
  · intro mode schemaKey schema schema' reordered h key table found
    exact h key table ((reordered.tables key).trans found)

/-- Every table of a reached catalog is well-formed if the tables that were handed over are. -/
theorem Reached.tables_wellFormed {catalog : Catalog}
    (reached : catalog.Reached fun mode table => table.WellFormed mode)
    {schema : Schema} (listed : schema ∈ catalog.schemas.values)
    {table : Table} (owned : table ∈ schema.tables.values) :
    table.WellFormed catalog.caseMode := by
  obtain ⟨schemaKey, foundSchema⟩ := Keyed.mem_values_iff.mp listed
  obtain ⟨key, found⟩ := Keyed.mem_values_iff.mp owned
  exact reached.wellFormed_of_find? foundSchema found

/-- A history in which the operations spell the columns and the table in another case. Both columns
are the same identifier; the first is meant throughout. -/
theorem tables_wellFormed_of_folded_history :
    let table : Table := {
      name := "T"
      columns := [{ name := "A", type := .integer }, { name := "a", type := .date }] }
    let catalog := (started "C" .insensitive).after
      [.createTable table,
        .setPrimaryKey "public" "t" ⟨"K", ["a"]⟩,
        .addForeignKey "Public" "t"
          { name := "F", columns := ["a"], parentTable := "t", parentColumns := ["a"] },
        .addIndex "PUBLIC" { name := "I", table := "t", columns := [{ name := "a" }] }]
    let made : Table := { table with
      columns := [
        { name := "A", type := .integer, nullable := false },
        { name := "a", type := .date }]
      primaryKey := some ⟨"K", ["A"]⟩
      foreignKeys := [{
        name := "F", columns := ["A"], parentSchema := some "PUBLIC", parentTable := "T",
        parentColumns := ["A"], referencedKey := some "K" }]
      indexes := [{ name := "I", table := "T", columns := [{ name := "A" }] }] }
    catalog.schemas.values.flatMap (·.tables.values) = [made] ∧ made.WellFormed .insensitive := by
  intro table catalog made
  have tables : catalog.schemas.values.flatMap (·.tables.values) = [made] := by decide +kernel
  have member : made ∈ catalog.schemas.values.flatMap (·.tables.values) := by
    rw [tables]
    exact List.mem_singleton_self made
  obtain ⟨schema, listed, owned⟩ := List.mem_flatMap.mp member
  have reached : catalog.Reached fun mode table => table.WellFormed mode := by
    refine (Reached.start "C" .insensitive).after _ ?_
    simp only [List.forall_mem_cons, Operation.keepsCaseMode, Operation.newTable?]
    have bare : table.WellFormed .insensitive := .of_bare rfl rfl rfl rfl
    simpa using bare
  have folded : catalog.caseMode = .insensitive := by decide +kernel
  rw [← folded]
  exact ⟨tables, reached.tables_wellFormed listed owned⟩

end Catalog

end CatalogViews
