import CatalogViews.Metadata.ForeignKeys
import CatalogViews.Proofs.ExactViews
import CatalogViews.Proofs.StableSort
import CatalogViews.Proofs.TablePlaces
import Mathlib.Data.List.Induction

/-!
# Keys that foreign keys name

A foreign key is stored with the name of the key that it references. The name is settled when the
foreign key is added and not looked at again: an operation that removes a key does not ask which
foreign keys name it. So the name can outlive the key, in three ways: the constraint is dropped, its
table is dropped, or the schema of its table is dropped with what it contains (`Operation.Removes`).

There is no fourth way as long as the case mode stays (`Metadata.referencedKeys_tracked`). A stored
foreign key names a key of its parent, or the history shows where this key was removed, with the
foreign key there before and ever since, and no key of that name again. What the views on foreign
keys report as `PK_NAME` is the same name.
-/

namespace CatalogViews

/-- The names of the primary key and of the unique keys. -/
def Table.keyNames (table : Table) : List String :=
  (table.primaryKey.toList ++ table.uniqueKeys).map (·.name)

theorem Table.mem_keyNames_of_keyOver? {table : Table} {columns : List String} {key : String}
    (covered : table.keyOver? columns = some key) : key ∈ table.keyNames := by
  obtain ⟨found, here, rfl⟩ := Option.map_eq_some_iff.mp covered
  exact List.mem_map_of_mem (List.mem_of_find?_eq_some here)

namespace Catalog

/-- The table of that name has a primary key or a unique key of that name. -/
def HasKey (catalog : Catalog) (schema table key : String) : Prop :=
  ∃ stored, catalog.tableIn? schema table = some stored ∧ key ∈ stored.keyNames

instance (catalog : Catalog) (schema table key : String) :
    Decidable (catalog.HasKey schema table key) :=
  inferInstanceAs (Decidable (∃ stored ∈ catalog.tableIn? schema table, key ∈ stored.keyNames))

/-- The table of that name stores a foreign key. -/
def Declares (catalog : Catalog) (schema table : String) (fk : ForeignKey) : Prop :=
  ∃ stored, catalog.tableIn? schema table = some stored ∧ fk ∈ stored.foreignKeys

end Catalog

/-- An operation removes a key of a table, with the table or without it. -/
inductive Operation.Removes (catalog : Catalog) (schema table key : String) : Operation → Prop
  | dropConstraint {owner name : String} :
      catalog.sameIdentifier owner schema = true → catalog.sameIdentifier name table = true →
      Removes catalog schema table key (.dropConstraint owner name key)
  | dropTable {name : String} :
      catalog.sameIdentifier (catalog.qualify name).1 schema = true →
      catalog.sameIdentifier (catalog.qualify name).2 table = true →
      Removes catalog schema table key (.dropTable name)
  | dropSchema {name : String} :
      catalog.sameIdentifier name schema = true →
      Removes catalog schema table key (.dropSchema name true)

/-- A key that a foreign key of a table names was removed from the parent when the foreign key was
there. Since then the foreign key has stayed, and the parent has had no key of that name. -/
def KeyRemoved (start : Catalog) (history : List Operation) (schema table : String)
    (fk : ForeignKey) (parentSchema key : String) : Prop :=
  ∃ earlier operation later, history = earlier ++ operation :: later ∧
    (start.after earlier).Declares schema table fk ∧
    (start.after earlier).HasKey parentSchema fk.parentTable key ∧
    operation.Removes (start.after earlier) parentSchema fk.parentTable key ∧
    ∀ since, since <+: later →
      (start.after (earlier ++ operation :: since)).Declares schema table fk ∧
        ¬(start.after (earlier ++ operation :: since)).HasKey parentSchema fk.parentTable key

namespace Operation

variable {operation : Operation} {catalog : Catalog} {schema name key : String}
  {fk : ForeignKey}

/-- A table keeps the names of its keys, except for that of a constraint that is dropped. -/
theorem Edits.mem_keyNames {old new : Table} (edits : operation.Edits catalog schema name old new)
    (named : key ∈ old.keyNames) :
    key ∈ new.keyNames ∨ operation = .dropConstraint schema name key := by
  cases edits with
  | setPrimaryKey free unused spelled =>
    simp only [Table.keyNames, free, Option.toList_none, List.nil_append] at named
    left
    rw [Table.keyNames, List.map_append]
    exact List.mem_append_right _ named
  | addUniqueKey unused spelled =>
    left
    rw [Table.keyNames, ← List.append_assoc, List.map_append]
    exact List.mem_append_left _ named
  | @dropPrimaryKey _ dropped declared =>
    rw [Table.keyNames, declared, Option.toList_some, List.singleton_append, List.map_cons,
      List.mem_cons] at named
    rcases named with rfl | unique
    · exact .inr rfl
    · left
      simpa [Table.keyNames] using unique
  | @dropNamed _ constraint other =>
    by_cases same : key = constraint
    · exact .inr (by rw [same])
    · left
      simp only [Table.keyNames, List.mem_map, List.mem_append, List.mem_filter] at named ⊢
      obtain ⟨found, member, rfl⟩ := named
      exact ⟨found, member.imp_right fun unique => ⟨unique, by simpa using same⟩, rfl⟩
  | addForeignKey resolution unused spelled => exact .inl named
  | addIndex named' unused spelled => exact .inl named
  | dropIndex found => exact .inl named

/-- A table gets no foreign key but a resolved one. -/
theorem Edits.mem_foreignKeys {old new : Table}
    (edits : operation.Edits catalog schema name old new) (declared : fk ∈ new.foreignKeys) :
    fk ∈ old.foreignKeys ∨ ∃ given resolved columns,
      operation = .addForeignKey schema name given ∧
        catalog.resolveForeignKey schema given = .ok resolved ∧ fk = { resolved with columns } := by
  cases edits with
  | @addForeignKey _ given resolved columns resolution unused spelled =>
    rcases List.mem_append.mp declared with before | added
    · exact .inl before
    · exact .inr ⟨given, resolved, columns, rfl, resolution, List.mem_singleton.mp added⟩
  | dropNamed other => exact .inl (List.mem_filter.mp declared).1
  | setPrimaryKey free unused spelled => exact .inl declared
  | addUniqueKey unused spelled => exact .inl declared
  | dropPrimaryKey present => exact .inl declared
  | addIndex named unused spelled => exact .inl declared
  | dropIndex found => exact .inl declared

end Operation

namespace Catalog

variable {operation : Operation} {catalog : Catalog} {schema table key : String}
  {fk : ForeignKey}

/-- Every stored foreign key is declared by its table. -/
theorem declares_of_mem (h : catalog.WellNamed) {owner : Schema} {child : Table}
    (listed : owner ∈ catalog.schemas.values)
    (owned : child ∈ owner.tables.values) (stored : fk ∈ child.foreignKeys) :
    catalog.Declares owner.name child.name fk := by
  obtain ⟨key, here⟩ := Keyed.mem_values_iff.mp owned
  have kept : Located.Kept catalog ⟨owner, key, child⟩ := ⟨listed, here⟩
  exact ⟨_, h.tableIn?_own kept, stored⟩

theorem sameIdentifier_of_schemaKey? {owner : String}
    (resolved : catalog.schemaKey? owner = some key)
    (same : catalog.caseMode.key key = catalog.caseMode.key schema) :
    catalog.sameIdentifier owner schema = true := by
  rw [sameIdentifier, CaseMode.same_iff, ← (schemaKey?_eq_some resolved).2, same]

variable (keeps : operation.keepsCaseMode = true) (h : catalog.WellNamed)
  (h' : (operation.applyTo catalog).WellNamed)

include keeps h h'

/-- A key stays where it is, unless the operation removes it. -/
theorem HasKey.applyTo (has : catalog.HasKey schema table key) :
    (operation.applyTo catalog).HasKey schema table key ∨
      operation.Removes catalog schema table key := by
  have sameMode := operation.applyTo_caseMode keeps catalog
  obtain ⟨stored, found, named⟩ := has
  obtain ⟨owner, same, kept⟩ := h.tableIn?_eq_some_iff.mp found
  have still {after : Table} (kept' : (operation.applyTo catalog).tableAt? owner
      (catalog.caseMode.key table) = some after) (named' : key ∈ after.keyNames) :
      (operation.applyTo catalog).HasKey schema table key := by
    refine ⟨after, h'.tableIn?_eq_some_iff.mpr ⟨owner, ?_⟩, named'⟩
    rw [sameMode]
    exact ⟨same, kept'⟩
  have changes := Operation.changes_applyTo keeps catalog owner (catalog.caseMode.key table)
  rw [kept] at changes
  generalize after : (operation.applyTo catalog).tableAt? owner (catalog.caseMode.key table) =
    left at changes
  cases changes with
  | keep => exact .inl (still after named)
  | dropTable resolved sameKey =>
    exact .inr (.dropTable (sameIdentifier_of_schemaKey? resolved same)
      (by rw [sameIdentifier, CaseMode.same_iff, sameKey]))
  | dropSchema resolved => exact .inr (.dropSchema (sameIdentifier_of_schemaKey? resolved same))
  | edit resolved sameKey edits =>
    rcases edits.mem_keyNames named with named' | dropped
    · exact .inl (still after named')
    · right
      rw [dropped]
      exact .dropConstraint (sameIdentifier_of_schemaKey? resolved same)
        (by rw [sameIdentifier, CaseMode.same_iff, sameKey])

/-- A foreign key has been there before, or it names a key that its parent has. -/
theorem Declares.of_applyTo (handed : ∀ new ∈ operation.newTable?, new.foreignKeys = [])
    (declared : (operation.applyTo catalog).Declares schema table fk) :
    catalog.Declares schema table fk ∨ ∃ parentSchema key,
      fk.parentSchema = some parentSchema ∧ fk.referencedKey = some key ∧
        (operation.applyTo catalog).HasKey parentSchema fk.parentTable key := by
  have sameMode := operation.applyTo_caseMode keeps catalog
  obtain ⟨stored, found, member⟩ := declared
  obtain ⟨owner, same, kept⟩ := h'.tableIn?_eq_some_iff.mp found
  rw [sameMode] at same kept
  have changes := Operation.changes_applyTo keeps catalog owner (catalog.caseMode.key table)
  rw [kept] at changes
  generalize before : catalog.tableAt? owner (catalog.caseMode.key table) = left at changes
  cases changes with
  | keep => exact .inl ⟨stored, h.tableIn?_eq_some_iff.mpr ⟨owner, same, before⟩, member⟩
  | put new =>
    rw [handed stored new] at member
    cases member
  | @edit operation name schema old _ resolved sameKey edits =>
    rcases edits.mem_foreignKeys member with
      declared | ⟨given, found, columns, rfl, resolution, rfl⟩
    · exact .inl ⟨old, h.tableIn?_eq_some_iff.mpr ⟨owner, same, before⟩, declared⟩
    · obtain ⟨-, parentSchema, parent, parentColumns, key, named, here, -, covered, rfl⟩ :=
        resolveForeignKey_eq_ok resolution
      have parentKept : Located.Kept catalog
          ⟨parentSchema, catalog.caseMode.key given.parentTable, parent⟩ :=
        ⟨(h.schema?_eq_some_iff.mp named).1, here⟩
      have has : catalog.HasKey parentSchema.name parent.name key :=
        ⟨parent, h.tableIn?_own parentKept, Table.mem_keyNames_of_keyOver? covered⟩
      refine .inr ⟨parentSchema.name, key, rfl, rfl, ?_⟩
      rcases has.applyTo keeps h h' with after | removes
      · exact after
      · cases removes

end Catalog

section

variable {start : Catalog} {history : List Operation} {operation : Operation}
  {schema table parentSchema key : String} {fk : ForeignKey}

theorem Catalog.after_concat (start : Catalog) (history : List Operation) (operation : Operation) :
    start.after (history ++ [operation]) = operation.applyTo (start.after history) := by
  rw [after, after, List.foldl_concat]

/-- A key that has been removed stays so while the foreign key stays and the key does not return. -/
theorem KeyRemoved.concat (removed : KeyRemoved start history schema table fk parentSchema key)
    (declared : (start.after (history ++ [operation])).Declares schema table fk)
    (absent : ¬(start.after (history ++ [operation])).HasKey parentSchema fk.parentTable key) :
    KeyRemoved start (history ++ [operation]) schema table fk parentSchema key := by
  obtain ⟨earlier, remover, later, rfl, before, has, removes, ever⟩ := removed
  refine ⟨earlier, remover, later ++ [operation], by simp, before, has, removes, ?_⟩
  intro since taken
  rcases List.prefix_concat_iff.mp taken with whole | part
  · rw [whole, ← List.cons_append, ← List.append_assoc]
    exact ⟨declared, absent⟩
  · exact ever since part

/-- The operation that comes last removes the key. -/
theorem KeyRemoved.last (before : (start.after history).Declares schema table fk)
    (has : (start.after history).HasKey parentSchema fk.parentTable key)
    (removes : operation.Removes (start.after history) parentSchema fk.parentTable key)
    (declared : (start.after (history ++ [operation])).Declares schema table fk)
    (absent : ¬(start.after (history ++ [operation])).HasKey parentSchema fk.parentTable key) :
    KeyRemoved start (history ++ [operation]) schema table fk parentSchema key := by
  refine ⟨history, operation, [], rfl, before, has, removes, ?_⟩
  intro since taken
  rw [List.prefix_nil.mp taken]
  exact ⟨declared, absent⟩

end

/-- The case mode is left alone, and tables come without foreign keys. -/
def Operation.HandsBare (operation : Operation) : Prop :=
  operation.keepsCaseMode = true ∧ ∀ table ∈ operation.newTable?, table.foreignKeys = []

namespace Catalog

variable {name : String} {mode : CaseMode} {history : List Operation}

theorem reached_of_handsBare (bare : ∀ operation ∈ history, operation.HandsBare) :
    ((started name mode).after history).Reached fun _ _ => True :=
  (Reached.start name mode).after history fun operation member =>
    ⟨(bare operation member).1, fun _ _ => trivial⟩

theorem tableAt?_started {schema table : String} :
    (started name mode).tableAt? schema table = none := by
  have empty : ∀ key owner, (started name mode).schemas.find? key = some owner →
      owner.tables.find? table = none :=
    Keyed.forall_insertNew (fun _ _ found => nomatch found) rfl rfl
  cases found : (started name mode).schemas.find? schema with
  | none => rw [tableAt?, found, Option.bind_none]
  | some owner => rw [tableAt?, found, Option.bind_some, empty schema owner found]

/-- A declared foreign key names a key of its parent, or this key has been removed. -/
theorem hasKey_or_keyRemoved (bare : ∀ operation ∈ history, operation.HandsBare)
    {schema table : String} {fk : ForeignKey}
    (declared : ((started name mode).after history).Declares schema table fk) :
    ∃ parentSchema key, fk.parentSchema = some parentSchema ∧ fk.referencedKey = some key ∧
      (((started name mode).after history).HasKey parentSchema fk.parentTable key ∨
        KeyRemoved (started name mode) history schema table fk parentSchema key) := by
  have h : ((started name mode).after history).WellNamed := (reached_of_handsBare bare).wellNamed
  induction history using List.reverseRecOn with
  | nil =>
    obtain ⟨stored, found, -⟩ := declared
    obtain ⟨owner, -, kept⟩ := h.tableIn?_eq_some_iff.mp found
    have nothing : (started name mode).tableAt? owner (mode.key table) = none := tableAt?_started
    exact absurd (nothing.symm.trans kept) nofun
  | append_singleton history operation ih =>
    have earlier : ∀ operation ∈ history, operation.HandsBare :=
      fun operation member => bare operation (List.mem_append_left _ member)
    obtain ⟨keeps, handed⟩ := bare operation (by simp)
    have h₀ : ((started name mode).after history).WellNamed :=
      (reached_of_handsBare earlier).wellNamed
    have declared' := declared
    rw [after_concat] at h declared'
    rcases declared'.of_applyTo keeps h₀ h handed with
      before | ⟨parentSchema, key, located, named, has⟩
    · obtain ⟨parentSchema, key, located, named, tracked⟩ := ih earlier before h₀
      refine ⟨parentSchema, key, located, named, ?_⟩
      by_cases now : ((started name mode).after (history ++ [operation])).HasKey parentSchema
        fk.parentTable key
      · exact .inl now
      · right
        rcases tracked with has | removed
        · rcases has.applyTo keeps h₀ h with after | removes
          · rw [← after_concat] at after
            exact absurd after now
          · exact .last before has removes declared now
        · exact removed.concat declared now
    · rw [← after_concat] at has
      exact ⟨parentSchema, key, located, named, .inl has⟩

end Catalog

/-- A table of the schema is found before a synonym. -/
theorem Catalog.table_of_findTableIn? {catalog : Catalog} {schema name : String} {stored : Table}
    {located : Located} (here : catalog.tableIn? schema name = some stored)
    (found : catalog.findTableIn? schema name = some located) : located.table = stored := by
  obtain ⟨owner, named, kept⟩ := Option.bind_eq_some_iff.mp here
  rw [findTableIn?, named, Option.bind_some, findTable?, kept] at found
  cases found
  rfl

/-- A row is about a foreign key of a table and tells its parent and the key that it references. -/
structure ResultTable.ShowsReference (table : ResultTable) (row : Row)
    (schema child fk parentSchema parent key : String) : Prop where
  schema : table.cellIn? row "FKTABLE_SCHEM" = some (.varchar schema)
  child : table.cellIn? row "FKTABLE_NAME" = some (.varchar child)
  fk : table.cellIn? row "FK_NAME" = some (.varchar fk)
  parentSchema : table.cellIn? row "PKTABLE_SCHEM" = some (.varchar parentSchema)
  parent : table.cellIn? row "PKTABLE_NAME" = some (.varchar parent)
  key : table.cellIn? row "PK_NAME" = some (.varchar key)

namespace Metadata

variable {m : Metadata} {answer : ResultTable}

/-- An answer of one of the views on foreign keys. -/
inductive AnswersReferences (m : Metadata) (answer : ResultTable) : Prop
  | importedKeys {catalog schema table : Option String} :
      m.importedKeys catalog schema table = .ok answer → AnswersReferences m answer
  | exportedKeys {catalog schema table : Option String} :
      m.exportedKeys catalog schema table = .ok answer → AnswersReferences m answer
  | crossReference {primaryCatalog primarySchema primaryTable catalog schema table :
      Option String} :
      m.crossReference primaryCatalog primarySchema primaryTable catalog schema table =
        .ok answer → AnswersReferences m answer

theorem exists_reference_of_checked {selected : Bool} {references : List Reference}
    {order : List Nat}
    (answered : if selected then m.referenceTable references order = .ok answer
      else .empty foreignKeysColumns = answer) :
    answer.columns = foreignKeysColumns ∧
      ∀ row ∈ answer.rows, ∃ r ∈ references, row ∈ m.referenceRows r := by
  split at answered
  · obtain ⟨-, rfl⟩ := referenceTable_eq_ok_iff.mp answered
    refine ⟨rfl, fun row member => ?_⟩
    rw [ResultTable.sortRows, List.mem_mergeSort, List.mem_flatMap] at member
    exact member
  · rw [← answered]
    exact ⟨rfl, List.forall_mem_nil _⟩

/-- The rows of the views on foreign keys are rows of references that stored tables declare. -/
theorem AnswersReferences.exists_reference (h : m.catalog.WellNamed)
    (answers : m.AnswersReferences answer) :
    answer.columns = foreignKeysColumns ∧ ∀ row ∈ answer.rows, ∃ r : Reference,
      r.child.Kept m.catalog ∧ r.fk ∈ r.child.table.foreignKeys ∧
        m.parentOf? r.child.schema r.fk = some r.parent ∧ row ∈ m.referenceRows r := by
  have ofChildren {children : List Located} {r : Reference} {row : Row}
      (kept : ∀ child ∈ children, child.Kept m.catalog)
      (declared : r ∈ children.flatMap m.referencesOf) (member : row ∈ m.referenceRows r) :
      ∃ r : Reference, r.child.Kept m.catalog ∧ r.fk ∈ r.child.table.foreignKeys ∧
        m.parentOf? r.child.schema r.fk = some r.parent ∧ row ∈ m.referenceRows r := by
    obtain ⟨child, found, ofChild⟩ := List.mem_flatMap.mp declared
    obtain ⟨stored, same, parent⟩ := mem_referencesOf_iff.mp ofChild
    rw [← same] at stored parent found
    exact ⟨r, kept _ found, stored, parent, member⟩
  cases answers with
  | importedKeys answered =>
    obtain ⟨name, -, -, answered⟩ := importedKeys_eq_ok_iff.mp answered
    obtain ⟨columns, rows⟩ := exists_reference_of_checked answered
    refine ⟨columns, fun row member => ?_⟩
    obtain ⟨r, declared, ofReference⟩ := rows row member
    exact ofChildren (fun child found => kept_of_mem_findTables h found) declared ofReference
  | exportedKeys answered =>
    obtain ⟨name, -, -, answered⟩ := (exportedKeys_eq_ok_iff h).mp answered
    obtain ⟨columns, rows⟩ := exists_reference_of_checked answered
    refine ⟨columns, fun row member => ?_⟩
    obtain ⟨r, referring, ofReference⟩ := rows row member
    obtain ⟨parent, -, referring⟩ := List.mem_flatMap.mp referring
    exact ofChildren (fun child visible => (mem_visibleTables_iff.mp visible).1)
      (List.mem_of_mem_filter referring) ofReference
  | crossReference answered =>
    obtain ⟨primaryName, -, name, -, -, answered⟩ := crossReference_eq_ok_iff.mp answered
    obtain ⟨columns, rows⟩ := exists_reference_of_checked answered
    refine ⟨columns, fun row member => ?_⟩
    obtain ⟨r, selected, ofReference⟩ := rows row member
    exact ofChildren (fun child found => kept_of_mem_findTables h found)
      (List.mem_of_mem_filter selected) ofReference

theorem showsReference_of_mem (made : answer.columns = foreignKeysColumns) {r : Reference}
    {row : Row} (member : row ∈ m.referenceRows r) {key : String}
    (named : r.fk.referencedKey = some key) :
    answer.ShowsReference row r.child.schema.name r.child.table.name r.fk.name
      r.parent.schema.name r.parent.table.name key := by
  unfold referenceRows at member
  split at member
  · obtain ⟨⟨⟨childColumn, parentColumn⟩, index⟩, -, rfl⟩ := List.mem_map.mp member
    simp only [referenceRow, named]
    constructor
    all_goals
      rw [ResultTable.cellIn?_of_columns made]
      rfl
  · cases member

/-- However the catalog is enumerated, every stored foreign key names a key of its parent, or the
history has removed this key since the foreign key was added. Every row of the views on foreign keys
is about such a foreign key and tells the key that it names. -/
theorem referencedKeys_tracked {name : String} {mode : CaseMode} {history : List Operation}
    (bare : ∀ operation ∈ history, operation.HandsBare)
    (enumerated : ((Catalog.started name mode).after history).Reordered m.catalog) :
    (∀ owner ∈ m.catalog.schemas.values, ∀ child ∈ owner.tables.values,
      ∀ fk ∈ child.foreignKeys, ∃ parentSchema key,
        fk.parentSchema = some parentSchema ∧ fk.referencedKey = some key ∧
          (m.catalog.HasKey parentSchema fk.parentTable key ∨
            KeyRemoved (.started name mode) history owner.name child.name fk parentSchema key)) ∧
    ∀ answer, m.AnswersReferences answer → ∀ row ∈ answer.rows,
      ∃ owner ∈ m.catalog.schemas.values, ∃ child ∈ owner.tables.values,
        ∃ fk ∈ child.foreignKeys, ∃ schema key parentSchema parent,
          fk.parentSchema = some schema ∧ fk.referencedKey = some key ∧
            answer.ShowsReference row owner.name child.name fk.name parentSchema parent key ∧
            (m.catalog.HasKey parentSchema parent key ∨
              KeyRemoved (.started name mode) history owner.name child.name fk schema key) := by
  have h₀ : ((Catalog.started name mode).after history).WellNamed :=
    (Catalog.reached_of_handsBare bare).wellNamed
  have h : m.catalog.WellNamed := h₀.of_reordered enumerated
  have tracked (owner : Schema) (listed : owner ∈ m.catalog.schemas.values) (child : Table)
      (owned : child ∈ owner.tables.values) (fk : ForeignKey) (stored : fk ∈ child.foreignKeys) :
      ∃ parentSchema key, fk.parentSchema = some parentSchema ∧ fk.referencedKey = some key ∧
        (m.catalog.HasKey parentSchema fk.parentTable key ∨
          KeyRemoved (.started name mode) history owner.name child.name fk parentSchema key) := by
    have declared := Catalog.declares_of_mem h listed owned stored
    simp only [Catalog.Declares, Catalog.HasKey, enumerated.tableIn?_eq h₀] at declared ⊢
    exact Catalog.hasKey_or_keyRemoved bare declared
  refine ⟨tracked, fun answer answers row member => ?_⟩
  obtain ⟨columns, rows⟩ := answers.exists_reference h
  obtain ⟨r, kept, stored, parent, ofReference⟩ := rows row member
  have owned : r.child.table ∈ r.child.schema.tables.values :=
    Keyed.mem_values_iff.mpr ⟨_, kept.table⟩
  obtain ⟨schema, key, located, named, has⟩ := tracked _ kept.schema _ owned _ stored
  refine ⟨_, kept.schema, _, owned, _, stored, schema, key, _, _, located, named,
    showsReference_of_mem columns ofReference named, ?_⟩
  rcases has with ⟨table, here, keyed⟩ | removed
  · rw [parentOf?, located, Option.getD_some] at parent
    have ownNames := h.tableIn?_own (h.kept_of_findTableIn? parent)
    rw [← Catalog.table_of_findTableIn? here parent] at keyed
    exact .inl ⟨_, ownNames, keyed⟩
  · exact .inr removed

end Metadata

/-- A foreign key names the key of a table of another schema. -/
def referringHistory : List Operation :=
  let columns : List Column := [{ name := "A", type := .integer }]
  [.createSchema "S", .createTableIn "S" { name := "p", columns },
    .setPrimaryKey "S" "p" ⟨"K", ["A"]⟩, .createTable { name := "C", columns },
    .addForeignKey "PUBLIC" "C" {
      name := "F", columns := ["A"], parentSchema := some "S", parentTable := "p",
      parentColumns := ["A"] }]

/-- The key goes, and a key of another name comes in its place. -/
def rekeying : List Operation :=
  [.dropConstraint "S" "p" "K", .setPrimaryKey "S" "p" ⟨"K2", ["A"]⟩]

def afterReferring (later : List Operation) : Catalog :=
  (Catalog.started "N" .insensitive).after (referringHistory ++ later)

theorem importedKeys_of_rekeying :
    let m : Metadata := .ofCatalog (afterReferring rekeying) {} {}
    ∃ answer, m.importedKeys none (some "PUBLIC") (some "C") = .ok answer ∧
      answer.rows.map (answer.cellIn? · "PK_NAME") = [some (.varchar "K")] := by
  intro m
  have selected : m.catalog.isSelectedBy none = true := rfl
  have coded : ∀ r ∈ (m.findTables (some "PUBLIC") "C").flatMap m.referencesOf, r.IsCoded := by
    decide +kernel
  have one : (((m.findTables (some "PUBLIC") "C").flatMap m.referencesOf).flatMap
      m.referenceRows).map (fun row => row[12]?) = [some (.varchar "K")] := by
    decide +kernel
  have answered : ∃ answer, m.importedKeys none (some "PUBLIC") (some "C") = .ok answer := by
    simp only [Metadata.importedKeys_eq_ok_iff, selected, if_true,
      Metadata.referenceTable_eq_ok_iff]
    exact ⟨_, "C", rfl, rfl, coded, rfl⟩
  obtain ⟨answer, answered⟩ := answered
  obtain ⟨_, ⟨⟩, -, made⟩ := Metadata.importedKeys_eq_ok_iff.mp answered
  rw [if_pos selected, Metadata.referenceTable_eq_ok_iff] at made
  obtain ⟨-, rfl⟩ := made
  obtain ⟨row, single, shown⟩ := List.map_eq_singleton_iff.mp one
  refine ⟨_, answered, ?_⟩
  rw [ResultTable.sortRows, single, List.mergeSort_singleton, List.map_singleton,
    ResultTable.cellIn?_of_columns rfl]
  exact congrArg (fun cell => [cell]) shown

/-- The one row of the answer tells the key that has been removed. -/
theorem keyRemoved_of_rekeying :
    let m : Metadata := .ofCatalog (afterReferring rekeying) {} {}
    ∃ answer, m.importedKeys none (some "PUBLIC") (some "C") = .ok answer ∧
      answer.rows.map (answer.cellIn? · "PK_NAME") = [some (.varchar "K")] ∧
      ∀ row ∈ answer.rows, ∃ fk : ForeignKey, fk.name = "F" ∧ fk.parentTable = "p" ∧
        fk.referencedKey = some "K" ∧
        (∃ parentSchema parent,
          answer.ShowsReference row "PUBLIC" "C" "F" parentSchema parent "K") ∧
        KeyRemoved (.started "N" .insensitive) (referringHistory ++ rekeying) "PUBLIC" "C" fk "S"
          "K" := by
  intro m
  have enumerated : ((Catalog.started "N" .insensitive).after
      (referringHistory ++ rekeying)).Reordered m.catalog := by
    dsimp only [m, Metadata.ofCatalog, afterReferring]
    exact .refl _
  have bare : ∀ operation ∈ referringHistory ++ rekeying, operation.HandsBare := by
    simp [referringHistory, rekeying, Operation.HandsBare, Operation.keepsCaseMode,
      Operation.newTable?]
  have only : ∀ owner ∈ m.catalog.schemas.values, ∀ child ∈ owner.tables.values,
      ∀ fk ∈ child.foreignKeys, owner.name = "PUBLIC" ∧ child.name = "C" ∧ fk.name = "F" ∧
        fk.parentTable = "p" ∧ fk.parentSchema = some "S" ∧ fk.referencedKey = some "K" := by
    decide +kernel
  have gone : ∀ owner ∈ m.catalog.schemas.values, ∀ table ∈ owner.tables.values,
      "K" ∉ table.keyNames := by
    decide +kernel
  obtain ⟨answer, answered, shown⟩ := importedKeys_of_rekeying
  refine ⟨answer, answered, shown, fun row member => ?_⟩
  obtain ⟨owner, listed, child, owned, fk, stored, schema, key, parentSchema, parent, located,
    named, shows, has⟩ := (Metadata.referencedKeys_tracked bare enumerated).2 answer
      (.importedKeys answered) row member
  obtain ⟨ownerName, childName, fkName, parentName, located', named'⟩ :=
    only owner listed child owned fk stored
  cases located.symm.trans located'
  cases named.symm.trans named'
  rw [ownerName, childName] at has
  rw [ownerName, childName, fkName] at shows
  refine ⟨fk, fkName, parentName, named', ⟨_, _, shows⟩, has.resolve_left ?_⟩
  rintro ⟨table, found, kept⟩
  obtain ⟨holder, here, place⟩ := Option.bind_eq_some_iff.mp found
  obtain ⟨schemaKey, -, here⟩ := Option.bind_eq_some_iff.mp here
  exact gone holder (Keyed.mem_values_iff.mpr ⟨_, here⟩) table
    (Keyed.mem_values_iff.mpr ⟨_, place⟩) kept

/-- Every stored foreign key whose parent exists names a key of the parent. -/
def Catalog.KeysPresent (catalog : Catalog) : Prop :=
  ∀ owner ∈ catalog.schemas.values, ∀ child ∈ owner.tables.values, ∀ fk ∈ child.foreignKeys,
    ∀ parent ∈ catalog.tableIn? (fk.parentSchema.getD owner.name) fk.parentTable,
      ∃ key ∈ fk.referencedKey, key ∈ parent.keyNames

instance (catalog : Catalog) : Decidable catalog.KeysPresent :=
  inferInstanceAs (Decidable (∀ owner ∈ _, _))

/-- Each of the three ways to remove a key leaves its name behind, and so does another case mode,
under which the name of the parent comes to mean another table. -/
theorem not_keysPresent_of_removed :
    let recreate : Operation := .createTableIn "S" { name := "p", columns := [] }
    (afterReferring []).KeysPresent ∧ ¬(afterReferring rekeying).KeysPresent ∧
      ¬(afterReferring [.dropTable "S.p", recreate]).KeysPresent ∧
      ¬(afterReferring [.dropSchema "S" true, .createSchema "S", recreate]).KeysPresent ∧
      ¬(afterReferring [.setCaseMode .sensitive, recreate]).KeysPresent ∧
      ∃ answer, (Metadata.ofCatalog (afterReferring rekeying) {} {}).importedKeys none
          (some "PUBLIC") (some "C") = .ok answer ∧
        answer.rows.map (answer.cellIn? · "PK_NAME") = [some (.varchar "K")] := by
  dsimp only
  refine ⟨?_, ?_, ?_, ?_, ?_, importedKeys_of_rekeying⟩
  all_goals decide +kernel

end CatalogViews
