import CatalogViews.Proofs.NameUniqueness

/-!
# What an operation does to one table

A catalog keeps a table under two keys, that of its schema and its own (`Catalog.tableAt?`). An
operation that succeeds does at most one thing to the table under a pair of keys: it puts one in, it
removes it, or it runs an edit of tables on it. `Operation.Changes` lists this with what the
operation must be to do it, and every success is in the list (`Operation.changes_of_ok`).

In a well-named catalog this says what becomes of the tables that names mean: names that are the
same identifiers mean the table under the same keys (`Catalog.WellNamed.tableIn?_eq_some_iff`).
-/

namespace CatalogViews

namespace Edit

variable {σ τ α : Type} {state state' : σ} {answer : α}

theorem within_eq_ok {focus : Focus σ τ} {edit : Edit τ α}
    (ran : Edit.within focus edit state = .ok answer state') :
    ∃ part restore part', focus state = .ok (part, restore) ∧ edit part = .ok answer part' ∧
      state' = restore part' := by
  unfold Edit.within at ran
  split at ran
  · cases ran
  · rename_i part restore focused
    split at ran
    · rename_i result part' edited
      cases ran
      exact ⟨part, restore, part', focused, edited, rfl⟩
    · cases ran

theorem within_eq_error {focus : Focus σ τ} {edit : Edit τ α} {error : CatalogError}
    (failed : Edit.within focus edit state = .error error state') :
    focus state = .error error ∨ ∃ part part', edit part = .error error part' := by
  unfold Edit.within at failed
  split at failed
  · rename_i failure unfocused
    cases failed
    exact .inl unfocused
  · rename_i part restore focused
    split at failed
    · cases failed
    · rename_i failure part' edited
      cases failed
      exact .inr ⟨part, part', edited⟩

theorem discard_apply (edit : Edit σ α) (state : σ) :
    (do discard <| edit : Edit σ Unit) state =
      match edit state with
      | .ok _ state' => .ok () state'
      | .error error state' => .error error state' := by
  change EStateM.map (fun _ => PUnit.unit) edit state = _
  rw [EStateM.map]
  cases edit state <;> rfl

theorem discard_eq_ok_iff {edit : Edit σ α} :
    (do discard <| edit : Edit σ Unit) state = .ok () state' ↔
      ∃ answer, edit state = .ok answer state' := by
  rw [discard_apply]
  cases edit state <;> simp

theorem discard_within (focus : Focus σ τ) (edit : Edit τ α) :
    (do discard <| Edit.within focus edit : Edit σ Unit) =
      Edit.within focus (do discard <| edit) := by
  funext state
  rw [discard_apply, Edit.within, Edit.within]
  cases focus state with
  | error error => rfl
  | ok found =>
    simp only [discard_apply]
    cases edit found.1 <;> rfl

end Edit

namespace Table

variable {mode : CaseMode} {table table' : Table} {name : String}

theorem addPrimaryKey_eq_ok {key : Key} (ran : addPrimaryKey mode key table = .ok () table') :
    table.primaryKey = none ∧ table.hasConstraint key.name = false ∧
      ∃ columns, table.spellings mode key.columns = .ok columns ∧
        table' = table.withPrimaryKey ⟨key.name, columns⟩ := by
  unfold addPrimaryKey at ran
  split at ran
  · cases ran
  · rename_i free
    split at ran
    · cases ran
    · rename_i columns spelled
      cases ran
      simp only [Bool.or_eq_true, not_or, Bool.not_eq_true, Option.isSome_eq_false_iff,
        Option.isNone_iff_eq_none] at free
      exact ⟨free.1, free.2, columns, spelled, rfl⟩

theorem addUniqueKey_eq_ok {key : Key} (ran : addUniqueKey mode key table = .ok () table') :
    table.hasConstraint key.name = false ∧
      ∃ columns, table.spellings mode key.columns = .ok columns ∧
        table' = { table with uniqueKeys := table.uniqueKeys ++ [⟨key.name, columns⟩] } := by
  unfold addUniqueKey at ran
  split at ran
  · cases ran
  · rename_i free
    split at ran
    · cases ran
    · rename_i columns spelled
      cases ran
      exact ⟨Bool.eq_false_iff.mpr free, columns, spelled, rfl⟩

theorem addForeignKey_eq_ok {fk : ForeignKey} (ran : addForeignKey mode fk table = .ok () table') :
    table.hasConstraint fk.name = false ∧
      ∃ columns, table.spellings mode fk.columns = .ok columns ∧
        table' = { table with foreignKeys := table.foreignKeys ++ [{ fk with columns }] } := by
  unfold addForeignKey at ran
  split at ran
  · cases ran
  · rename_i free
    split at ran
    · cases ran
    · rename_i columns spelled
      cases ran
      exact ⟨Bool.eq_false_iff.mpr free, columns, spelled, rfl⟩

/-- Either the primary key goes, or other constraints of the name. -/
theorem dropConstraint_eq_ok (ran : dropConstraint name table = .ok () table') :
    (∃ key, table.primaryKey = some key ∧ key.name = name ∧
      table' = { table with primaryKey := none }) ∨
    table.primaryKey.any (·.name == name) = false ∧ table' = { table with
      uniqueKeys := table.uniqueKeys.filter (·.name != name)
      foreignKeys := table.foreignKeys.filter (·.name != name) } := by
  unfold dropConstraint at ran
  split at ran
  · rename_i named
    cases ran
    cases declared : table.primaryKey with
    | none => simp [declared] at named
    | some key => exact .inl ⟨key, rfl, by simpa [declared] using named, rfl⟩
  · rename_i other
    dsimp only at ran
    split at ran
    · cases ran
    · cases ran
      exact .inr ⟨Bool.eq_false_iff.mpr other, rfl⟩

theorem addIndex_eq_ok {index : Index} (ran : addIndex mode index table = .ok () table') :
    table.index? index.name = none ∧ ∃ stored, table.respell mode index = .ok stored ∧
      table' = { table with indexes := table.indexes ++ [stored] } := by
  unfold addIndex at ran
  split at ran
  · cases ran
  · rename_i free
    split at ran
    · cases ran
    · rename_i stored spelled
      cases ran
      exact ⟨by simpa using free, stored, spelled, rfl⟩

theorem dropIndex_eq_ok {index : String} {dropped : Index}
    (ran : dropIndex name index table = .ok dropped table') :
    table.index? index = some dropped ∧
      table' = { table with indexes := table.indexes.eraseP (·.name == index) } := by
  unfold dropIndex at ran
  split at ran
  · cases ran
  · rename_i found
    cases ran
    exact ⟨found, rfl⟩

end Table

namespace Catalog

/-- The table that is kept under the key of a schema and a key of its own. -/
def tableAt? (catalog : Catalog) (schema table : String) : Option Table :=
  (catalog.schemas.find? schema).bind (·.tables.find? table)

variable {catalog catalog' : Catalog} {schema table : String} {stored : Table}

theorem tableAt?_eq_some_iff :
    catalog.tableAt? schema table = some stored ↔ ∃ owner,
      catalog.schemas.find? schema = some owner ∧ owner.tables.find? table = some stored :=
  Option.bind_eq_some_iff

theorem Reordered.tableAt?_eq (reordered : catalog.Reordered catalog') (schema table : String) :
    catalog'.tableAt? schema table = catalog.tableAt? schema table := by
  have related := reordered.schemas schema
  rw [tableAt?, tableAt?]
  generalize catalog.schemas.find? schema = old, catalog'.schemas.find? schema = new at related
  cases related with
  | none => rfl
  | some same => exact (same.tables table).symm

section

variable {key : String} {owner owner' : Schema} (used : catalog.schemas.find? key = some owner)

include used

/-- What is kept in a part of a schema, once one schema has something else under one key of it. -/
theorem bind_find?_replace {α : Type} (part : Schema → Keyed α) {place : String} {value : Option α}
    (updated : ∀ other, (part owner').find? other =
      if other = place then value else (part owner).find? other) :
    ((catalog.schemas.replace key owner').find? schema).bind (fun kept => (part kept).find? table) =
      if schema = key ∧ table = place then value
      else (catalog.schemas.find? schema).bind fun kept => (part kept).find? table := by
  simp only [Keyed.find?_replace used]
  by_cases here : schema = key
  · simp [here, used, updated]
  · simp [here]

theorem bind_find?_replace_of_eq {α : Type} (part : Schema → Keyed α)
    (same : part owner' = part owner) :
    ((catalog.schemas.replace key owner').find? schema).bind (fun kept => (part kept).find? table) =
      (catalog.schemas.find? schema).bind fun kept => (part kept).find? table := by
  simp only [Keyed.find?_replace used]
  by_cases here : schema = key
  · simp [here, used, same]
  · simp [here]

/-- A schema with another table under one key. -/
theorem tableAt?_replace {place : String} {value : Option Table}
    (updated : ∀ other, owner'.tables.find? other =
      if other = place then value else owner.tables.find? other) :
    ({ catalog with schemas := catalog.schemas.replace key owner' } : Catalog).tableAt? schema
        table = if schema = key ∧ table = place then value else catalog.tableAt? schema table :=
  bind_find?_replace used Schema.tables updated

/-- A schema with the same tables. -/
theorem tableAt?_replace_of_tables_eq (same : owner'.tables = owner.tables) :
    ({ catalog with schemas := catalog.schemas.replace key owner' } : Catalog).tableAt? schema
        table = catalog.tableAt? schema table :=
  bind_find?_replace_of_eq used Schema.tables same

end

/-- A further schema with nothing in it. -/
theorem bind_find?_insertNew {schemas : Keyed Schema} {key : String} {owner : Schema}
    (fresh : schemas.find? key = none) {α : Type} (part : Schema → Keyed α)
    (nothing : (part owner).find? table = none) :
    ((schemas.insertNew key owner).find? schema).bind (fun kept => (part kept).find? table) =
      (schemas.find? schema).bind fun kept => (part kept).find? table := by
  rw [Keyed.find?_insertNew fresh]
  by_cases here : schema = key
  · simp [here, fresh, nothing]
  · simp [here]

/-- The catalog with another table in place of the one under a pair of keys. -/
def withTable (catalog : Catalog) (schema key : String) (table : Table) : Catalog :=
  match catalog.schemas.find? schema with
  | none => catalog
  | some owner => { catalog with
      schemas := catalog.schemas.replace schema
        { owner with tables := owner.tables.replace key table } }

theorem withTable_eq {key : String} {owner : Schema}
    (used : catalog.schemas.find? schema = some owner) (new : Table) :
    catalog.withTable schema key new = { catalog with
      schemas := catalog.schemas.replace schema
        { owner with tables := owner.tables.replace key new } } := by
  simp only [withTable, used]

theorem tableAt?_withTable {key : String} {old : Table}
    (kept : catalog.tableAt? schema key = some old) (new : Table) (other place : String) :
    (catalog.withTable schema key new).tableAt? other place =
      if other = schema ∧ place = key then some new else catalog.tableAt? other place := by
  obtain ⟨owner, found, kept⟩ := tableAt?_eq_some_iff.mp kept
  rw [withTable_eq found]
  exact tableAt?_replace found (Keyed.find?_replace kept)

/-- Names mean the table under the keys of the same identifiers. -/
theorem WellNamed.tableIn?_eq_some_iff (h : catalog.WellNamed) {name : String} :
    catalog.tableIn? schema name = some stored ↔ ∃ key,
      catalog.caseMode.key key = catalog.caseMode.key schema ∧
        catalog.tableAt? key (catalog.caseMode.key name) = some stored := by
  rw [tableIn?, Option.bind_eq_some_iff]
  constructor
  · intro ⟨owner, named, kept⟩
    obtain ⟨listed, same⟩ := h.schema?_eq_some_iff.mp named
    have found : catalog.schemas.find? owner.name = some owner := h.find?_schemas.mpr ⟨listed, rfl⟩
    exact ⟨owner.name, same, tableAt?_eq_some_iff.mpr ⟨owner, found, kept⟩⟩
  · intro ⟨key, same, kept⟩
    obtain ⟨owner, found, kept⟩ := tableAt?_eq_some_iff.mp kept
    obtain ⟨listed, named⟩ := h.find?_schemas.mp found
    rw [← named] at same
    exact ⟨owner, h.schema?_eq_some_iff.mpr ⟨listed, same⟩, kept⟩

/-- The same tables under all keys are the same tables under all names. -/
theorem tableIn?_of_tableAt?_eq (h : catalog.WellNamed) (h' : catalog'.WellNamed)
    (sameMode : catalog'.caseMode = catalog.caseMode)
    (same : ∀ key table, catalog'.tableAt? key table = catalog.tableAt? key table)
    (schema name : String) : catalog'.tableIn? schema name = catalog.tableIn? schema name := by
  ext stored
  rw [h.tableIn?_eq_some_iff, h'.tableIn?_eq_some_iff, sameMode]
  simp only [same]

theorem Reordered.tableIn?_eq (reordered : catalog.Reordered catalog') (h : catalog.WellNamed)
    (schema name : String) : catalog'.tableIn? schema name = catalog.tableIn? schema name :=
  tableIn?_of_tableAt?_eq h (h.of_reordered reordered) reordered.caseMode.symm
    reordered.tableAt?_eq schema name

/-- The schema and the table are found under their own names. -/
theorem WellNamed.tableIn?_own (h : catalog.WellNamed) {located : Located}
    (kept : located.Kept catalog) :
    catalog.tableIn? located.schema.name located.table.name = some located.table := by
  have found : located.schema.tables.find? (catalog.caseMode.key located.table.name) =
      some located.table := by
    rw [← kept.key_eq h]
    exact kept.table
  rw [tableIn?, h.schema?_eq_some_iff.mpr ⟨kept.schema, rfl⟩]
  exact found

/-- An edit of a schema puts the changed schema in its place. -/
theorem onSchema_eq_ok_iff {α : Type} {name : String} {edit : CaseMode → Edit Schema α}
    {answer : α} :
    onSchema name edit catalog = .ok answer catalog' ↔
      ∃ key owner owner', catalog.schemaKey? name = some key ∧
        catalog.schemas.find? key = some owner ∧ edit catalog.caseMode owner = .ok answer owner' ∧
        catalog' = { catalog with schemas := catalog.schemas.replace key owner' } := by
  constructor
  · intro ran
    obtain ⟨owner, restore, owner', focused, edited, rfl⟩ := Edit.within_eq_ok ran
    obtain ⟨key, resolved, found, rfl⟩ := schemaFocus_eq_ok focused
    exact ⟨key, owner, owner', resolved, found, edited, rfl⟩
  · intro ⟨key, owner, owner', resolved, found, edited, made⟩
    rw [made]
    simp only [onSchema, Edit.within, schemaFocus, resolved, found, edited]

/-- What is left under the keys that names resolve to. -/
def Updates (catalog catalog' : Catalog) (schema name : String) (old new : Option Table) : Prop :=
  ∃ key, catalog.schemaKey? schema = some key ∧
    catalog.tableAt? key (catalog.caseMode.key name) = old ∧
    ∀ other table, catalog'.tableAt? other table =
      if other = key ∧ table = catalog.caseMode.key name then new
      else catalog.tableAt? other table

theorem Updates.at {name : String} {old new : Option Table}
    (updates : catalog.Updates catalog' schema name old new) (other table : String) :
    catalog'.tableAt? other table = catalog.tableAt? other table ∨
      catalog.schemaKey? schema = some other ∧ catalog.caseMode.key name = table ∧
        catalog.tableAt? other table = old ∧ catalog'.tableAt? other table = new := by
  obtain ⟨key, resolved, before, after⟩ := updates
  by_cases here : other = key ∧ table = catalog.caseMode.key name
  · have changed : catalog'.tableAt? other table = new := by rw [after, if_pos here]
    obtain ⟨rfl, rfl⟩ := here
    exact .inr ⟨resolved, rfl, before, changed⟩
  · exact .inl (by rw [after, if_neg here])

/-- An edit of a table puts the changed table in its place. -/
theorem onTable_eq_ok_iff {α : Type} {name : String} {edit : CaseMode → Edit Table α} {answer : α} :
    onTable schema name edit catalog = .ok answer catalog' ↔
      ∃ key old new, catalog.schemaKey? schema = some key ∧
        catalog.tableAt? key (catalog.caseMode.key name) = some old ∧
        edit catalog.caseMode old = .ok answer new ∧
        catalog' = catalog.withTable key (catalog.caseMode.key name) new := by
  constructor
  · intro ran
    obtain ⟨key, owner, owner', resolved, found, edited, rfl⟩ := onSchema_eq_ok_iff.mp ran
    obtain ⟨old, restore, new, focused, edited', rfl⟩ := Edit.within_eq_ok edited
    obtain ⟨kept, rfl⟩ := Schema.tableFocus_eq_ok focused
    exact ⟨key, old, new, resolved, tableAt?_eq_some_iff.mpr ⟨owner, found, kept⟩, edited',
      (withTable_eq found new).symm⟩
  · intro ⟨key, old, new, resolved, kept, edited, made⟩
    obtain ⟨owner, found, kept⟩ := tableAt?_eq_some_iff.mp kept
    rw [made, withTable_eq found]
    simp only [onTable, onSchema, Edit.within, schemaFocus, resolved, found, Schema.tableFocus,
      Schema.table?, kept, edited]

theorem onTable_eq_ok {α : Type} {name : String} {edit : CaseMode → Edit Table α} {answer : α}
    (ran : onTable schema name edit catalog = .ok answer catalog') :
    ∃ old new, edit catalog.caseMode old = .ok answer new ∧
      catalog.Updates catalog' schema name (some old) (some new) := by
  obtain ⟨key, old, new, resolved, kept, edited, rfl⟩ := onTable_eq_ok_iff.mp ran
  exact ⟨old, new, edited, key, resolved, kept, tableAt?_withTable kept new⟩

theorem createTableIn_eq_ok {new : Table}
    (ran : createTableIn schema new catalog = .ok () catalog') :
    catalog.Updates catalog' schema new.name none (some new) := by
  obtain ⟨key, owner, owner', resolved, found, edited, rfl⟩ := onSchema_eq_ok_iff.mp ran
  unfold Schema.createTable at edited
  split at edited
  · cases edited
  · rename_i free
    cases edited
    have fresh := (Schema.find?_eq_none_of_hasKey (Bool.eq_false_iff.mpr free)).1
    refine ⟨key, resolved, by simp [tableAt?, found, fresh], ?_⟩
    intro other table
    exact tableAt?_replace found (Keyed.find?_insertNew fresh)

theorem dropTable_eq_ok {name : String} (ran : dropTable name catalog = .ok () catalog') :
    ∃ old, catalog.Updates catalog' (catalog.qualify name).1 (catalog.qualify name).2 (some old)
      none := by
  unfold dropTable at ran
  obtain ⟨key, owner, owner', resolved, found, edited, rfl⟩ := onSchema_eq_ok_iff.mp ran
  obtain ⟨old, edited⟩ := Edit.discard_eq_ok_iff.mp edited
  unfold Schema.dropTable at edited
  split at edited
  · cases edited
  · rename_i kept
    cases edited
    refine ⟨old, key, resolved, tableAt?_eq_some_iff.mpr ⟨owner, found, kept⟩, ?_⟩
    intro other table
    exact tableAt?_replace found Keyed.find?_erase

theorem createSynonym_eq_ok {synonym : Synonym}
    (ran : createSynonym schema synonym catalog = .ok () catalog') (other table : String) :
    catalog'.tableAt? other table = catalog.tableAt? other table := by
  unfold createSynonym at ran
  split at ran
  · cases ran
  · obtain ⟨key, owner, owner', -, found, edited, rfl⟩ := onSchema_eq_ok_iff.mp ran
    unfold Schema.createSynonym at edited
    split at edited
    · cases edited
    · cases edited
      exact tableAt?_replace_of_tables_eq found rfl

theorem dropSynonym_eq_ok {name : String}
    (ran : dropSynonym schema name catalog = .ok () catalog') (other table : String) :
    catalog'.tableAt? other table = catalog.tableAt? other table := by
  obtain ⟨key, owner, owner', -, found, edited, rfl⟩ := onSchema_eq_ok_iff.mp ran
  obtain ⟨old, edited⟩ := Edit.discard_eq_ok_iff.mp edited
  unfold Schema.dropSynonym at edited
  split at edited
  · cases edited
  · cases edited
    exact tableAt?_replace_of_tables_eq found rfl

theorem createSchema_eq_ok {name : String} (ran : createSchema name catalog = .ok () catalog')
    (other table : String) : catalog'.tableAt? other table = catalog.tableAt? other table := by
  unfold createSchema at ran
  split at ran
  · cases ran
  · rename_i free
    cases ran
    have fresh : catalog.schemas.find? name = none :=
      find?_schemas_of_schema?_eq_none (by simpa using free)
    exact bind_find?_insertNew fresh Schema.tables rfl

/-- The schema is empty, or it is dropped with what it contains. -/
theorem dropSchema_eq_ok {name : String} {cascade : Bool}
    (ran : dropSchema name cascade catalog = .ok () catalog') :
    ∃ key owner, catalog.schemaKey? name = some key ∧ catalog.schemas.find? key = some owner ∧
      (cascade = true ∨ owner.isEmpty = true) ∧
      ∀ other table, catalog'.tableAt? other table =
        if other = key then none else catalog.tableAt? other table := by
  unfold dropSchema at ran
  split at ran
  · cases ran
  · rename_i key resolved
    split at ran
    · cases ran
    · split at ran
      · cases ran
      · rename_i owner found
        split at ran
        · cases ran
        · rename_i droppable
          cases ran
          refine ⟨key, owner, resolved, found, ?_, ?_⟩
          · cases cascade <;> simp_all
          · intro other table
            simp only [tableAt?, Keyed.find?_erase]
            split <;> rfl

end Catalog

namespace Operation

/-- The edit that an operation runs on a table, with the names of the table. -/
def tableEdit? (catalog : Catalog) : Operation → Option (String × String × Edit Table Unit)
  | setPrimaryKey schema table key =>
    some (schema, table, Table.addPrimaryKey catalog.caseMode key)
  | addUniqueKey schema table key => some (schema, table, Table.addUniqueKey catalog.caseMode key)
  | addForeignKey schema table fk =>
    match catalog.resolveForeignKey schema fk with
    | .ok resolved => some (schema, table, Table.addForeignKey catalog.caseMode resolved)
    | .error _ => none
  | dropConstraint schema table name => some (schema, table, Table.dropConstraint name)
  | addIndex schema index => some (schema, index.table, Table.addIndex catalog.caseMode index)
  | dropIndex schema table name =>
    some (schema, table, do discard <| Table.dropIndex table name)
  | _ => none

variable {operation : Operation} {catalog catalog' : Catalog}

theorem perform_eq_onTable {schema name : String} {edit : Edit Table Unit}
    (edits : operation.tableEdit? catalog = some (schema, name, edit)) :
    operation.perform catalog = Catalog.onTable schema name (fun _ => edit) catalog := by
  cases operation with
  | addForeignKey schema table fk =>
    simp only [tableEdit?] at edits
    simp only [perform, Catalog.addForeignKey]
    cases resolved : catalog.resolveForeignKey schema fk with
    | error error => simp [resolved] at edits
    | ok found =>
      rw [resolved] at edits
      cases edits
      rfl
  | dropIndex schema table index =>
    cases edits
    exact (congrFun (Edit.discard_within _ _) catalog).trans
      (congrArg (Edit.within _ · catalog) (Edit.discard_within _ _))
  | setPrimaryKey schema table key
  | addUniqueKey schema table key
  | dropConstraint schema table name
  | addIndex schema index =>
    cases edits
    rfl
  | _ => cases edits

/-- An operation that runs an edit on a table does nothing else to the tables. -/
theorem updates_of_tableEdit? {schema name : String} {edit : Edit Table Unit}
    (edits : operation.tableEdit? catalog = some (schema, name, edit))
    (ran : operation.perform catalog = .ok () catalog') :
    ∃ old new, edit old = .ok () new ∧
      catalog.Updates catalog' schema name (some old) (some new) := by
  rw [perform_eq_onTable edits] at ran
  exact Catalog.onTable_eq_ok ran

/-- What an operation makes of the table that it names, in the schema that it names. -/
inductive Edits (catalog : Catalog) (schema name : String) : Operation → Table → Table → Prop
  | setPrimaryKey {table : Table} {key : Key} {columns : List String} :
      table.primaryKey = none → table.hasConstraint key.name = false →
      table.spellings catalog.caseMode key.columns = .ok columns →
      Edits catalog schema name (.setPrimaryKey schema name key) table
        (table.withPrimaryKey ⟨key.name, columns⟩)
  | addUniqueKey {table : Table} {key : Key} {columns : List String} :
      table.hasConstraint key.name = false →
      table.spellings catalog.caseMode key.columns = .ok columns →
      Edits catalog schema name (.addUniqueKey schema name key) table
        { table with uniqueKeys := table.uniqueKeys ++ [⟨key.name, columns⟩] }
  | addForeignKey {table : Table} {given resolved : ForeignKey} {columns : List String} :
      catalog.resolveForeignKey schema given = .ok resolved →
      table.hasConstraint resolved.name = false →
      table.spellings catalog.caseMode resolved.columns = .ok columns →
      Edits catalog schema name (.addForeignKey schema name given) table
        { table with foreignKeys := table.foreignKeys ++ [{ resolved with columns }] }
  | dropPrimaryKey {table : Table} {key : Key} :
      table.primaryKey = some key →
      Edits catalog schema name (.dropConstraint schema name key.name) table
        { table with primaryKey := none }
  | dropNamed {table : Table} {constraint : String} :
      table.primaryKey.any (·.name == constraint) = false →
      Edits catalog schema name (.dropConstraint schema name constraint) table
        { table with
          uniqueKeys := table.uniqueKeys.filter (·.name != constraint)
          foreignKeys := table.foreignKeys.filter (·.name != constraint) }
  | addIndex {table : Table} {index stored : Index} :
      index.table = name → table.index? index.name = none →
      table.respell catalog.caseMode index = .ok stored →
      Edits catalog schema name (.addIndex schema index) table
        { table with indexes := table.indexes ++ [stored] }
  | dropIndex {table : Table} {index : String} {dropped : Index} :
      table.index? index = some dropped →
      Edits catalog schema name (.dropIndex schema name index) table
        { table with indexes := table.indexes.eraseP (·.name == index) }

theorem edits_of_tableEdit? {schema name : String} {edit : Edit Table Unit} {old new : Table}
    (edits : operation.tableEdit? catalog = some (schema, name, edit))
    (edited : edit old = .ok () new) : operation.Edits catalog schema name old new := by
  cases operation with
  | setPrimaryKey schema table key =>
    cases edits
    obtain ⟨free, unused, columns, spelled, rfl⟩ := Table.addPrimaryKey_eq_ok edited
    exact .setPrimaryKey free unused spelled
  | addUniqueKey schema table key =>
    cases edits
    obtain ⟨unused, columns, spelled, rfl⟩ := Table.addUniqueKey_eq_ok edited
    exact .addUniqueKey unused spelled
  | addForeignKey schema table given =>
    simp only [tableEdit?] at edits
    split at edits
    · rename_i resolved resolution
      cases edits
      obtain ⟨unused, columns, spelled, rfl⟩ := Table.addForeignKey_eq_ok edited
      exact .addForeignKey resolution unused spelled
    · cases edits
  | dropConstraint schema table constraint =>
    cases edits
    rcases Table.dropConstraint_eq_ok edited with ⟨key, declared, rfl, rfl⟩ | ⟨other, rfl⟩
    · exact .dropPrimaryKey declared
    · exact .dropNamed other
  | addIndex schema index =>
    cases edits
    obtain ⟨unused, stored, spelled, rfl⟩ := Table.addIndex_eq_ok edited
    exact .addIndex rfl unused spelled
  | dropIndex schema table index =>
    cases edits
    obtain ⟨dropped, ran⟩ := Edit.discard_eq_ok_iff.mp edited
    obtain ⟨found, rfl⟩ := Table.dropIndex_eq_ok ran
    exact .dropIndex found
  | _ => cases edits

/-- What a success of an operation can do to the table under a pair of keys. -/
inductive Changes (catalog : Catalog) (schema table : String) :
    Operation → Option Table → Option Table → Prop
  | keep (operation : Operation) (stored : Option Table) :
      Changes catalog schema table operation stored stored
  | put {operation : Operation} {new : Table} :
      operation.newTable? = some new → Changes catalog schema table operation none (some new)
  | dropTable {name : String} {old : Table} :
      catalog.schemaKey? (catalog.qualify name).1 = some schema →
      catalog.caseMode.key (catalog.qualify name).2 = table →
      Changes catalog schema table (.dropTable name) (some old) none
  | dropSchema {name : String} {old : Table} :
      catalog.schemaKey? name = some schema →
      Changes catalog schema table (.dropSchema name true) (some old) none
  | edit {operation : Operation} {owner name : String} {old new : Table} :
      catalog.schemaKey? owner = some schema → catalog.caseMode.key name = table →
      operation.Edits catalog owner name old new →
      Changes catalog schema table operation (some old) (some new)

theorem Changes.of_eq {schema table : String}
    (same : catalog'.tableAt? schema table = catalog.tableAt? schema table) :
    operation.Changes catalog schema table (catalog.tableAt? schema table)
      (catalog'.tableAt? schema table) := by
  rw [same]
  exact .keep operation _

theorem changes_of_createTableIn {name : String} {new : Table}
    (handed : operation.newTable? = some new)
    (ran : Catalog.createTableIn name new catalog = .ok () catalog') (schema table : String) :
    operation.Changes catalog schema table (catalog.tableAt? schema table)
      (catalog'.tableAt? schema table) := by
  rcases (Catalog.createTableIn_eq_ok ran).at schema table with same | ⟨-, -, before, after⟩
  · exact .of_eq same
  · rw [before, after]
    exact .put handed

theorem changes_of_dropSchema {name : String} {cascade : Bool}
    (ran : Catalog.dropSchema name cascade catalog = .ok () catalog') (schema table : String) :
    (dropSchema name cascade).Changes catalog schema table (catalog.tableAt? schema table)
      (catalog'.tableAt? schema table) := by
  obtain ⟨key, owner, resolved, found, droppable, after⟩ := Catalog.dropSchema_eq_ok ran
  rw [after]
  split
  · rename_i here
    rw [here]
    cases before : catalog.tableAt? key table with
    | none => exact .keep _ _
    | some old =>
      obtain ⟨owner', found', kept⟩ := Catalog.tableAt?_eq_some_iff.mp before
      rw [found] at found'
      cases found'
      have used : owner.isEmpty = false := by
        have entry := Keyed.find?_eq_some_iff.mp kept
        simp [Schema.isEmpty, Keyed.isEmpty, List.ne_nil_of_mem entry]
      rw [used] at droppable
      obtain rfl : cascade = true := by simpa using droppable
      exact .dropSchema resolved
  · exact .keep _ _

/-- A success of an operation changes a table in one of the listed ways. -/
theorem changes_of_ok (ran : operation.perform catalog = .ok () catalog')
    (schema table : String) :
    operation.Changes catalog schema table (catalog.tableAt? schema table)
      (catalog'.tableAt? schema table) := by
  cases edits : operation.tableEdit? catalog with
  | some target =>
    obtain ⟨owner, name, edit⟩ := target
    obtain ⟨old, new, edited, updates⟩ := updates_of_tableEdit? edits ran
    rcases updates.at schema table with same | ⟨resolved, sameKey, before, after⟩
    · exact .of_eq same
    · rw [before, after]
      exact .edit resolved sameKey (edits_of_tableEdit? edits edited)
  | none =>
    cases operation with
    | createSchema name => exact .of_eq (Catalog.createSchema_eq_ok ran schema table)
    | dropSchema name cascade => exact changes_of_dropSchema ran schema table
    | setCurrentSchema name =>
      simp only [perform, Catalog.setCurrentSchema] at ran
      split at ran
      · cases ran
      · cases ran
        exact .keep _ _
    | createTable new => exact changes_of_createTableIn rfl ran schema table
    | createTableIn owner new => exact changes_of_createTableIn rfl ran schema table
    | dropTable name =>
      obtain ⟨old, updates⟩ := Catalog.dropTable_eq_ok ran
      rcases updates.at schema table with same | ⟨resolved, sameKey, before, after⟩
      · exact .of_eq same
      · rw [before, after]
        exact .dropTable resolved sameKey
    | createSynonym owner synonym => exact .of_eq (Catalog.createSynonym_eq_ok ran schema table)
    | dropSynonym owner name => exact .of_eq (Catalog.dropSynonym_eq_ok ran schema table)
    | addForeignKey owner name fk =>
      simp only [perform, Catalog.addForeignKey] at ran
      simp only [tableEdit?] at edits
      split at ran
      · cases ran
      · rename_i resolved resolution
        rw [resolution] at edits
        cases edits
    | setCollation collation =>
      cases ran
      exact .keep _ _
    | setCaseMode mode =>
      cases ran
      exact .keep _ _
    | _ => cases edits

/-- The same for an operation that may have failed. -/
theorem changes_applyTo (keeps : operation.keepsCaseMode = true) (catalog : Catalog)
    (schema table : String) :
    operation.Changes catalog schema table (catalog.tableAt? schema table)
      ((operation.applyTo catalog).tableAt? schema table) := by
  have obeys : operation.perform.Obeys (Catalog.Step fun _ => True) :=
    perform_obeys keeps fun _ _ => trivial
  unfold applyTo
  split
  · rename_i answer catalog' ran
    exact changes_of_ok ran schema table
  · rename_i error catalog' failed
    have same : catalog' = catalog := obeys.atomic catalog error catalog' failed
    rw [same]
    exact .keep _ _

end Operation

end CatalogViews
