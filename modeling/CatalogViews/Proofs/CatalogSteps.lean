import CatalogViews.Catalog.Operation
import CatalogViews.Proofs.KeyedLookup
import Mathlib.Data.List.Forall2

/-!
# What an operation can do

An operation either fails, and then leaves the catalog as it was, or it makes one step. The steps
are listed here once, on the three levels on which the edits work: `Table.Step` for the constraints
and indexes of a table, `Schema.Step` for the objects of a schema, `Catalog.Step` for the schemas of
a catalog. A constructor carries what the edit has checked, and nothing about how names were
resolved that the stored objects do not show.

`Catalog.Reached` are the catalogs that histories lead to when the case mode is chosen once, before
anything is added, and the maps may be enumerated in another order at any time. A property that
holds of the empty catalog and that steps and other orders preserve holds of all of them
(`Catalog.Reached.induction`).
-/

namespace CatalogViews

namespace Edit

variable {σ τ α : Type}

/-- A failure leaves the state as it was, and a success is a step of the relation. -/
def Outcome (step : σ → σ → Prop) (state : σ) : EStateM.Result CatalogError σ α → Prop
  | .ok _ state' => step state state'
  | .error _ state' => state' = state

/-- All runs of an edit end in an outcome of the relation. -/
def Obeys (edit : Edit σ α) (step : σ → σ → Prop) : Prop :=
  ∀ state, Outcome step state (edit state)

theorem Obeys.atomic {edit : Edit σ α} {step : σ → σ → Prop} (obeys : edit.Obeys step) :
    edit.Atomic := by
  intro state error state' failed
  have outcome := obeys state
  rw [failed] at outcome
  exact outcome

/-- An edit of a part has the outcome of the whole, if putting the part back unchanged changes
nothing and putting a changed part back is a step. -/
theorem Obeys.within {focus : Focus σ τ} {edit : Edit τ α} {partStep : τ → τ → Prop}
    {step : σ → σ → Prop} {state : σ} (obeys : edit.Obeys partStep)
    (focused : ∀ part restore, focus state = .ok (part, restore) →
      restore part = state ∧ ∀ part', partStep part part' → step state (restore part')) :
    Outcome step state (Edit.within focus edit state) := by
  unfold Edit.within
  split
  · exact rfl
  · rename_i part restore found
    obtain ⟨unchanged, changed⟩ := focused part restore found
    have outcome := obeys part
    split
    · rename_i result part' ran
      rw [ran] at outcome
      exact changed part' outcome
    · rename_i error part' failed
      rw [failed] at outcome
      exact (congrArg restore outcome).trans unchanged

theorem Obeys.discard {edit : Edit σ α} {step : σ → σ → Prop} (obeys : edit.Obeys step) :
    (do discard <| edit : Edit σ Unit).Obeys step := by
  intro state
  have outcome := obeys state
  change Outcome step state (EStateM.map (fun _ => PUnit.unit) edit state)
  unfold EStateM.map
  split
  · rename_i value state' ran
    rw [ran] at outcome
    exact outcome
  · rename_i error state' failed
    rw [failed] at outcome
    exact outcome

end Edit

theorem bind_eq_ok_iff {ε α β : Type} {x : Except ε α} {f : α → Except ε β} {b : β} :
    x >>= f = .ok b ↔ ∃ a, x = .ok a ∧ f a = .ok b := by
  cases x <;> simp [bind, Except.bind]

theorem exists_eq_ok_of_map_toOption {ε α β : Type} {x : Except ε α} {f : α → β} {b : β}
    (answer : x.toOption.map f = some b) : ∃ a, x = .ok a ∧ f a = b := by
  cases x with
  | error error => cases answer
  | ok a => exact ⟨a, rfl, Option.some.inj answer⟩

/-- A traversal that succeeds has an answer for each element. -/
theorem mapM_eq_ok_iff {ε α β : Type} {f : α → Except ε β} {inputs : List α}
    {outputs : List β} :
    inputs.mapM f = .ok outputs ↔ List.Forall₂ (fun a b => f a = .ok b) inputs outputs := by
  induction inputs generalizing outputs with
  | nil => cases outputs <;> simp [pure, Except.pure]
  | cons a inputs ih =>
    rw [List.mapM_cons, List.forall₂_cons_left_iff]
    cases answer : f a with
    | error error => simp [bind, Except.bind]
    | ok b =>
      cases rest : inputs.mapM f with
      | error error => simp [bind, Except.bind, ← ih, rest]
      | ok bs =>
        simp only [bind, Except.bind, pure, Except.pure, Except.ok.injEq, ← ih, rest]
        constructor
        · rintro rfl
          exact ⟨b, bs, rfl, rfl, rfl⟩
        · rintro ⟨_, _, rfl, rfl, rfl⟩
          rfl

/-- What is in one of two related lists is related to something in the other. -/
theorem exists_mem_of_forall₂ {α β : Type} {relation : α → β → Prop} {l : List α} {l' : List β}
    (related : List.Forall₂ relation l l') {b : β} (member : b ∈ l') : ∃ a ∈ l, relation a b := by
  induction related with
  | nil => cases member
  | cons here _ ih =>
    rcases List.mem_cons.mp member with rfl | later
    · exact ⟨_, List.mem_cons_self, here⟩
    · obtain ⟨a, given, there⟩ := ih later
      exact ⟨a, List.mem_cons_of_mem _ given, there⟩

theorem mem_of_mapM_eq_ok {ε α β : Type} {f : α → Except ε β} {inputs : List α}
    {outputs : List β} {b : β} (h : inputs.mapM f = .ok outputs) (member : b ∈ outputs) :
    ∃ a ∈ inputs, f a = .ok b :=
  exists_mem_of_forall₂ (mapM_eq_ok_iff.mp h) member

/-- A traversal that fails has the failure of one of the elements. -/
theorem exists_of_mapM_eq_error {ε α β : Type} {f : α → Except ε β} {inputs : List α} {error : ε}
    (h : inputs.mapM f = .error error) : ∃ a ∈ inputs, f a = .error error := by
  induction inputs with
  | nil => cases h
  | cons a inputs ih =>
    rw [List.mapM_cons] at h
    cases answer : f a with
    | error failure =>
      rw [answer] at h
      cases h
      exact ⟨a, List.mem_cons_self, answer⟩
    | ok b =>
      cases rest : inputs.mapM f with
      | error failure =>
        rw [answer, rest] at h
        cases h
        obtain ⟨a', member, failed⟩ := ih rest
        exact ⟨a', List.mem_cons_of_mem a member, failed⟩
      | ok bs =>
        rw [answer, rest] at h
        cases h

/-- What an edit of a table does when it succeeds. Names of columns come in the spelling that the
table has for them. -/
inductive Table.Step (mode : CaseMode) : Table → Table → Prop
  | addPrimaryKey {table : Table} {key : Key} {columns : List String} :
      table.primaryKey = none → table.hasConstraint key.name = false →
      table.spellings mode key.columns = .ok columns →
      Step mode table (table.withPrimaryKey ⟨key.name, columns⟩)
  | addUniqueKey {table : Table} {key : Key} {columns : List String} :
      table.hasConstraint key.name = false → table.spellings mode key.columns = .ok columns →
      Step mode table { table with uniqueKeys := table.uniqueKeys ++ [⟨key.name, columns⟩] }
  | addForeignKey {table : Table} {fk : ForeignKey} {columns : List String} :
      table.hasConstraint fk.name = false → table.spellings mode fk.columns = .ok columns →
      fk.columns.length = fk.parentColumns.length →
      Step mode table { table with foreignKeys := table.foreignKeys ++ [{ fk with columns }] }
  | dropPrimaryKey {table : Table} {key : Key} :
      table.primaryKey = some key → Step mode table { table with primaryKey := none }
  | dropNamed {table : Table} (name : String) :
      table.primaryKey.any (·.name == name) = false →
      Step mode table { table with
        uniqueKeys := table.uniqueKeys.filter (·.name != name)
        foreignKeys := table.foreignKeys.filter (·.name != name) }
  | addIndex {table : Table} {index stored : Index} :
      table.index? index.name = none → table.respell mode index = .ok stored →
      Step mode table { table with indexes := table.indexes ++ [stored] }
  | dropIndex {table : Table} {index : Index} :
      table.index? index.name = some index →
      Step mode table { table with indexes := table.indexes.eraseP (·.name == index.name) }

namespace Table

variable {mode : CaseMode}

theorem addPrimaryKey_obeys (key : Key) : (addPrimaryKey mode key).Obeys (Step mode) := by
  intro table
  unfold addPrimaryKey
  split
  · exact rfl
  · rename_i free
    simp only [Bool.or_eq_true, not_or, Bool.not_eq_true, Option.isSome_eq_false_iff,
      Option.isNone_iff_eq_none] at free
    split
    · exact rfl
    · rename_i columns spelled
      exact .addPrimaryKey free.1 free.2 spelled

theorem addUniqueKey_obeys (key : Key) : (addUniqueKey mode key).Obeys (Step mode) := by
  intro table
  unfold addUniqueKey
  split
  · exact rfl
  · rename_i free
    split
    · exact rfl
    · rename_i columns spelled
      exact .addUniqueKey (Bool.eq_false_iff.mpr free) spelled

theorem addForeignKey_obeys {fk : ForeignKey}
    (paired : fk.columns.length = fk.parentColumns.length) :
    (addForeignKey mode fk).Obeys (Step mode) := by
  intro table
  unfold addForeignKey
  split
  · exact rfl
  · rename_i free
    split
    · exact rfl
    · rename_i columns spelled
      exact .addForeignKey (Bool.eq_false_iff.mpr free) spelled paired

/-- The lists have been filtered when it turns out that no constraint has the name; but a filter
that keeps the length keeps the list. -/
theorem dropConstraint_obeys (name : String) : (dropConstraint name).Obeys (Step mode) := by
  intro table
  unfold dropConstraint
  split
  · rename_i named
    cases found : table.primaryKey with
    | none => simp [found] at named
    | some key => exact .dropPrimaryKey found
  · rename_i other
    dsimp only
    split
    · rename_i kept
      rw [List.length_filter_eq_length_iff, List.length_filter_eq_length_iff] at kept
      rw [List.filter_eq_self.mpr kept.1, List.filter_eq_self.mpr kept.2]
      exact rfl
    · exact .dropNamed name (Bool.eq_false_iff.mpr other)

theorem addIndex_obeys (index : Index) : (addIndex mode index).Obeys (Step mode) := by
  intro table
  unfold addIndex
  split
  · exact rfl
  · rename_i free
    split
    · exact rfl
    · rename_i stored spelled
      exact .addIndex (by simpa using free) spelled

theorem dropIndex_obeys (tableName name : String) :
    (dropIndex tableName name).Obeys (Step mode) := by
  intro table
  unfold dropIndex
  split
  · exact rfl
  · rename_i index found
    have named : index.name = name := by simpa using List.find?_some found
    subst named
    exact .dropIndex found

end Table

/-- What an edit of a schema does when it succeeds. A table that is put in is one that the caller
may hand over. -/
inductive Schema.Step (admits : Table → Prop) (mode : CaseMode) : Schema → Schema → Prop
  | createTable {schema : Schema} {table : Table} :
      admits table → schema.hasKey (mode.key table.name) = false →
      Step admits mode schema
        { schema with tables := schema.tables.insertNew (mode.key table.name) table }
  | createSynonym {schema : Schema} {synonym : Synonym} :
      schema.hasKey (mode.key synonym.name) = false →
      Step admits mode schema
        { schema with synonyms := schema.synonyms.insertNew (mode.key synonym.name) synonym }
  | dropTable {schema : Schema} (key : String) :
      Step admits mode schema { schema with tables := schema.tables.erase key }
  | dropSynonym {schema : Schema} (key : String) :
      Step admits mode schema { schema with synonyms := schema.synonyms.erase key }
  | editTable {schema : Schema} {key : String} {table table' : Table} :
      schema.tables.find? key = some table → Table.Step mode table table' →
      Step admits mode schema { schema with tables := schema.tables.replace key table' }

namespace Schema

variable {admits : Table → Prop} {mode : CaseMode}

theorem find?_eq_none_of_hasKey {schema : Schema} {key : String}
    (free : schema.hasKey key = false) :
    schema.tables.find? key = none ∧ schema.synonyms.find? key = none := by
  simpa [hasKey, Keyed.contains_eq_isSome_find?] using free

theorem createTable_obeys {table : Table} (handed : admits table) :
    (createTable mode table).Obeys (Step admits mode) := by
  intro schema
  unfold createTable
  split
  · exact rfl
  · rename_i free
    exact .createTable handed (Bool.eq_false_iff.mpr free)

theorem createSynonym_obeys (synonym : Synonym) :
    (createSynonym mode synonym).Obeys (Step admits mode) := by
  intro schema
  unfold createSynonym
  split
  · exact rfl
  · rename_i free
    exact .createSynonym (Bool.eq_false_iff.mpr free)

theorem dropTable_obeys (name : String) : (dropTable mode name).Obeys (Step admits mode) := by
  intro schema
  unfold dropTable
  split
  · exact rfl
  · exact .dropTable (mode.key name)

theorem dropSynonym_obeys (name : String) : (dropSynonym mode name).Obeys (Step admits mode) := by
  intro schema
  unfold dropSynonym
  split
  · exact rfl
  · exact .dropSynonym (mode.key name)

/-- A property of the tables and their keys is kept if tables come with it and steps of a table keep
it. -/
theorem Step.forall_tables {property : String → Table → Prop}
    (handed : ∀ table, admits table → property (mode.key table.name) table)
    (kept : ∀ key table table', Table.Step mode table table' →
      property key table → property key table')
    {schema schema' : Schema} (step : Step admits mode schema schema')
    (h : ∀ key table, schema.tables.find? key = some table → property key table) :
    ∀ key table, schema'.tables.find? key = some table → property key table := by
  cases step with
  | createTable admitted free =>
    exact Keyed.forall_insertNew h (find?_eq_none_of_hasKey free).1 (handed _ admitted)
  | createSynonym free => exact h
  | dropTable dropped => exact Keyed.forall_erase h
  | dropSynonym dropped => exact h
  | editTable edited step =>
    exact Keyed.forall_replace h edited (kept _ _ _ step (h _ _ edited))

theorem tableFocus_eq_ok {name : String} {schema : Schema} {table : Table}
    {restore : Table → Schema} (h : tableFocus mode name schema = .ok (table, restore)) :
    schema.tables.find? (mode.key name) = some table ∧
      restore = fun table' =>
        { schema with tables := schema.tables.replace (mode.key name) table' } := by
  unfold tableFocus at h
  split at h
  · cases h
  · rename_i table found
    cases h
    exact ⟨found, rfl⟩

theorem onTable_obeys {α : Type} {edit : Edit Table α} (name : String)
    (obeys : edit.Obeys (Table.Step mode)) :
    (Edit.within (tableFocus mode name) edit).Obeys (Step admits mode) := by
  intro schema
  refine obeys.within fun table restore focused => ?_
  obtain ⟨found, rfl⟩ := tableFocus_eq_ok focused
  refine ⟨?_, fun table' step => .editTable found step⟩
  simp only [Keyed.replace_eq_self found]

end Schema

/-- What an operation does to a catalog when it succeeds and is no choice of the case mode. -/
inductive Catalog.Step (admits : Table → Prop) : Catalog → Catalog → Prop
  | createSchema {catalog : Catalog} {name : String} :
      catalog.schema? name = none →
      Step admits catalog
        { catalog with schemas := catalog.schemas.insertNew name (Schema.empty name) }
  | dropSchema {catalog : Catalog} {key : String} {schema : Schema} :
      key ≠ mainSchemaName → catalog.schemas.find? key = some schema →
      Step admits catalog { catalog with
        schemas := catalog.schemas.erase key
        currentSchema :=
          if catalog.currentSchema = key then mainSchemaName else catalog.currentSchema }
  | setCurrentSchema {catalog : Catalog} {name key : String} :
      catalog.schemaKey? name = some key →
      Step admits catalog { catalog with currentSchema := key }
  | editSchema {catalog : Catalog} {key : String} {schema schema' : Schema} :
      catalog.schemas.find? key = some schema →
      Schema.Step admits catalog.caseMode schema schema' →
      Step admits catalog { catalog with schemas := catalog.schemas.replace key schema' }
  | setCollation {catalog : Catalog} (collation : Option String) :
      Step admits catalog { catalog with collation }

namespace Catalog

variable {admits : Table → Prop}

theorem Step.caseMode_eq {catalog catalog' : Catalog} (step : Step admits catalog catalog') :
    catalog'.caseMode = catalog.caseMode := by
  cases step <;> rfl

theorem find?_schemas_of_schema?_eq_none {catalog : Catalog} {name : String}
    (free : catalog.schema? name = none) : catalog.schemas.find? name = none := by
  rw [Keyed.find?_eq_none_iff, ← Keyed.contains_iff]
  intro used
  obtain ⟨schema, found⟩ := Keyed.mem_keys_iff.mp (Keyed.contains_iff.mp used)
  simp [schema?, schemaKey?, used, found] at free

/-- A property of the schemas and their keys is kept if empty schemas have it and steps of a schema
keep it. -/
theorem Step.forall_schemas {property : String → Schema → Prop}
    (new : ∀ name, property name (Schema.empty name))
    {catalog catalog' : Catalog}
    (kept : ∀ key schema schema', Schema.Step admits catalog.caseMode schema schema' →
      property key schema → property key schema')
    (step : Step admits catalog catalog')
    (h : ∀ key schema, catalog.schemas.find? key = some schema → property key schema) :
    ∀ key schema, catalog'.schemas.find? key = some schema → property key schema := by
  cases step with
  | createSchema free =>
    exact Keyed.forall_insertNew h (find?_schemas_of_schema?_eq_none free) (new _)
  | dropSchema other dropped => exact Keyed.forall_erase h
  | setCurrentSchema resolved => exact h
  | editSchema edited step =>
    exact Keyed.forall_replace h edited (kept _ _ _ step (h _ _ edited))
  | setCollation collation => exact h

theorem schemaFocus_eq_ok {name : String} {catalog : Catalog} {schema : Schema}
    {restore : Schema → Catalog} (h : schemaFocus name catalog = .ok (schema, restore)) :
    ∃ key, catalog.schemaKey? name = some key ∧ catalog.schemas.find? key = some schema ∧
      restore = fun schema' =>
        { catalog with schemas := catalog.schemas.replace key schema' } := by
  unfold schemaFocus at h
  split at h
  · cases h
  · rename_i key resolved
    split at h
    · cases h
    · rename_i schema found
      cases h
      exact ⟨key, resolved, found, rfl⟩

theorem onSchema_obeys {α : Type} {edit : CaseMode → Edit Schema α} (name : String)
    (obeys : ∀ mode, (edit mode).Obeys (Schema.Step admits mode)) :
    (onSchema name edit).Obeys (Step admits) := by
  intro catalog
  refine (obeys catalog.caseMode).within fun schema restore focused => ?_
  obtain ⟨key, -, found, rfl⟩ := schemaFocus_eq_ok focused
  refine ⟨?_, fun schema' step => .editSchema found step⟩
  simp only [Keyed.replace_eq_self found]

theorem onTable_obeys {α : Type} {edit : CaseMode → Edit Table α} (schema table : String)
    (obeys : ∀ mode, (edit mode).Obeys (Table.Step mode)) :
    (onTable schema table edit).Obeys (Step admits) :=
  onSchema_obeys schema fun mode => Schema.onTable_obeys table (obeys mode)

theorem createSchema_obeys (name : String) : (createSchema name).Obeys (Step admits) := by
  intro catalog
  unfold createSchema
  split
  · exact rfl
  · rename_i free
    exact .createSchema (by simpa using free)

theorem dropSchema_obeys (name : String) (cascade : Bool) :
    (dropSchema name cascade).Obeys (Step admits) := by
  intro catalog
  unfold dropSchema
  split
  · exact rfl
  · split
    · exact rfl
    · rename_i key _ other
      split
      · exact rfl
      · rename_i schema found
        split
        · exact rfl
        · exact .dropSchema other found

theorem setCurrentSchema_obeys (name : String) :
    (setCurrentSchema name).Obeys (Step admits) := by
  intro catalog
  unfold setCurrentSchema
  split
  · exact rfl
  · rename_i key resolved
    exact .setCurrentSchema resolved

/-- What the resolution of a foreign key checks and fills in. -/
theorem resolveForeignKey_eq_ok {catalog : Catalog} {schema : String} {fk resolved : ForeignKey}
    (h : catalog.resolveForeignKey schema fk = .ok resolved) :
    fk.columns.length = fk.parentColumns.length ∧
    ∃ parentSchema parent parentColumns key,
      catalog.schema? (fk.parentSchema.getD schema) = some parentSchema ∧
      parentSchema.table? catalog.caseMode fk.parentTable = some parent ∧
      parent.spellings catalog.caseMode fk.parentColumns = .ok parentColumns ∧
      parent.keyOver? parentColumns = some key ∧
      resolved = { fk with
        parentSchema := some parentSchema.name
        parentTable := parent.name
        parentColumns
        referencedKey := some key } := by
  unfold resolveForeignKey at h
  split at h
  · cases h
  · rename_i paired
    split at h
    · cases h
    · rename_i parentSchema located
      split at h
      · cases h
      · rename_i parent found
        split at h
        · cases h
        · rename_i parentColumns spelled
          split at h
          · cases h
          · rename_i key covered
            cases h
            exact ⟨not_not.mp paired, parentSchema, parent, parentColumns, key, located, found,
              spelled, covered, rfl⟩

theorem resolveForeignKey_paired {catalog : Catalog} {schema : String} {fk resolved : ForeignKey}
    (h : catalog.resolveForeignKey schema fk = .ok resolved) :
    resolved.columns.length = resolved.parentColumns.length := by
  obtain ⟨paired, _, _, parentColumns, _, -, -, spelled, -, rfl⟩ := resolveForeignKey_eq_ok h
  exact paired.trans (mapM_eq_ok_iff.mp spelled).length_eq

end Catalog

namespace Operation

/-- Whether an operation leaves the case mode alone. -/
def keepsCaseMode : Operation → Bool
  | setCaseMode _ => false
  | _ => true

/-- The table that an operation hands over to the catalog. -/
def newTable? : Operation → Option Table
  | createTable table => some table
  | createTableIn _ table => some table
  | _ => none

variable {admits : Table → Prop}

theorem perform_obeys {operation : Operation} (keeps : operation.keepsCaseMode = true)
    (handed : ∀ table ∈ operation.newTable?, admits table) :
    operation.perform.Obeys (Catalog.Step admits) := by
  cases operation with
  | createSchema name => exact Catalog.createSchema_obeys name
  | dropSchema name cascade => exact Catalog.dropSchema_obeys name cascade
  | setCurrentSchema name => exact Catalog.setCurrentSchema_obeys name
  | createTable table =>
    intro catalog
    exact Catalog.onSchema_obeys catalog.currentSchema
      (fun _ => Schema.createTable_obeys (handed table rfl)) catalog
  | createTableIn schema table =>
    exact Catalog.onSchema_obeys schema fun _ => Schema.createTable_obeys (handed table rfl)
  | dropTable name =>
    intro catalog
    exact Catalog.onSchema_obeys (catalog.qualify name).1
      (fun _ => (Schema.dropTable_obeys (catalog.qualify name).2).discard) catalog
  | createSynonym schema synonym =>
    intro catalog
    simp only [perform, Catalog.createSynonym]
    split
    · exact rfl
    · exact Catalog.onSchema_obeys schema (fun _ => Schema.createSynonym_obeys synonym) catalog
  | dropSynonym schema name =>
    exact Catalog.onSchema_obeys schema fun _ => (Schema.dropSynonym_obeys name).discard
  | setPrimaryKey schema table key =>
    exact Catalog.onTable_obeys schema table fun _ => Table.addPrimaryKey_obeys key
  | addUniqueKey schema table key =>
    exact Catalog.onTable_obeys schema table fun _ => Table.addUniqueKey_obeys key
  | addForeignKey schema table fk =>
    intro catalog
    simp only [perform, Catalog.addForeignKey]
    split
    · exact rfl
    · rename_i resolved resolution
      exact Catalog.onTable_obeys schema table
        (fun _ => Table.addForeignKey_obeys (Catalog.resolveForeignKey_paired resolution)) catalog
  | dropConstraint schema table name =>
    exact Catalog.onTable_obeys schema table fun _ => Table.dropConstraint_obeys name
  | addIndex schema index =>
    exact Catalog.onTable_obeys schema index.table fun _ => Table.addIndex_obeys index
  | dropIndex schema table name =>
    exact (Catalog.onTable_obeys schema table fun _ => Table.dropIndex_obeys table name).discard
  | setCollation collation => exact fun _ => .setCollation collation
  | setCaseMode mode => cases keeps

/-- A failed operation leaves the catalog as it was, whatever the catalog is. -/
theorem unchanged_of_failed {operation : Operation} {catalog catalog' : Catalog}
    {error : CatalogError} (failed : operation.perform catalog = .error error catalog') :
    catalog' = catalog := by
  cases keeps : operation.keepsCaseMode with
  | true =>
    have obeys : operation.perform.Obeys (Catalog.Step fun _ => True) :=
      perform_obeys keeps fun _ _ => trivial
    exact obeys.atomic catalog error catalog' failed
  | false =>
    cases operation <;> cases keeps
    cases failed

/-- The name is that of no constraint, which shows only after both lists have been filtered. -/
theorem unchanged_of_unknown_constraint :
    let catalog := (Catalog.named "C").after
      [.createTable { name := "T", columns := [{ name := "A", type := .integer }] },
        .setPrimaryKey "PUBLIC" "T" ⟨"K", ["A"]⟩, .addUniqueKey "PUBLIC" "T" ⟨"U", ["A"]⟩,
        .addForeignKey "PUBLIC" "T" {
          name := "F", columns := ["A"], parentTable := "T", parentColumns := ["A"] }]
    ∃ catalog', (Operation.dropConstraint "PUBLIC" "T" "k").perform catalog =
      .error (.constraintNotFound "k") catalog' ∧ catalog' = catalog := by
  intro catalog
  have failed : (Operation.dropConstraint "PUBLIC" "T" "k").perform catalog =
      .error (.constraintNotFound "k") catalog := by rfl
  exact ⟨catalog, failed, unchanged_of_failed failed⟩

/-- An operation leaves the catalog as it was or makes a step. -/
theorem applyTo_cases {operation : Operation} (keeps : operation.keepsCaseMode = true)
    (handed : ∀ table ∈ operation.newTable?, admits table) (catalog : Catalog) :
    operation.applyTo catalog = catalog ∨
      Catalog.Step admits catalog (operation.applyTo catalog) := by
  have outcome := perform_obeys keeps handed catalog
  unfold applyTo
  split
  · rename_i result catalog' ran
    rw [ran] at outcome
    exact .inr outcome
  · rename_i error catalog' failed
    rw [failed] at outcome
    exact .inl outcome

theorem applyTo_caseMode (operation : Operation) (keeps : operation.keepsCaseMode = true)
    (catalog : Catalog) : (operation.applyTo catalog).caseMode = catalog.caseMode := by
  have obeys : operation.applyTo catalog = catalog ∨
      Catalog.Step (fun _ => True) catalog (operation.applyTo catalog) :=
    applyTo_cases keeps (fun _ _ => trivial) catalog
  rcases obeys with same | step
  · rw [same]
  · exact step.caseMode_eq

end Operation

/-- The same schema, perhaps with its tables and synonyms in another order. -/
structure Schema.Reordered (schema other : Schema) : Prop where
  name : schema.name = other.name
  tables : ∀ key, schema.tables.find? key = other.tables.find? key
  synonyms : ∀ key, schema.synonyms.find? key = other.synonyms.find? key

theorem Schema.Reordered.refl (schema : Schema) : schema.Reordered schema :=
  ⟨rfl, fun _ => rfl, fun _ => rfl⟩

namespace Catalog

/-- The same schemas, perhaps in another order, and each perhaps in another order. -/
structure Reordered (catalog other : Catalog) : Prop where
  name : catalog.name = other.name
  caseMode : catalog.caseMode = other.caseMode
  schemas : ∀ key,
    Option.Rel Schema.Reordered (catalog.schemas.find? key) (other.schemas.find? key)

theorem Reordered.refl (catalog : Catalog) : catalog.Reordered catalog where
  name := rfl
  caseMode := rfl
  schemas key := by
    cases catalog.schemas.find? key with
    | none => exact .none
    | some schema => exact .some (.refl schema)

theorem Reordered.exists_of_find? {catalog other : Catalog} {key : String} {schema : Schema}
    (reordered : catalog.Reordered other) (found : other.schemas.find? key = some schema) :
    ∃ before, catalog.schemas.find? key = some before ∧ before.Reordered schema := by
  have related := reordered.schemas key
  rw [found] at related
  generalize catalog.schemas.find? key = here at related
  cases related with
  | some same => exact ⟨_, rfl, same⟩

/-- The catalog of that name before anything is added, with a case mode chosen. -/
def started (name : String) (mode : CaseMode) : Catalog :=
  (Operation.setCaseMode mode).applyTo (named name)

/-- The catalogs that operations lead to when the case mode is chosen once, before anything is
added, and every table that is handed over is an admitted one. At any time the catalog may come to
be enumerated in another order. -/
inductive Reached (admits : CaseMode → Table → Prop) : Catalog → Prop
  | start (name : String) (mode : CaseMode) : Reached admits (started name mode)
  | perform {catalog : Catalog} (operation : Operation) : Reached admits catalog →
      operation.keepsCaseMode = true →
      (∀ table ∈ operation.newTable?, admits catalog.caseMode table) →
      Reached admits (operation.applyTo catalog)
  | enumerate {catalog other : Catalog} : Reached admits catalog → catalog.Reordered other →
      other.currentSchema = catalog.currentSchema → other.collation = catalog.collation →
      Reached admits other

@[simp] theorem started_caseMode (name : String) (mode : CaseMode) :
    (started name mode).caseMode = mode := rfl

@[simp] theorem started_schemas (name : String) (mode : CaseMode) :
    (started name mode).schemas = (named name).schemas := rfl

/-- The catalogs where nothing is enumerated anew are among them. -/
theorem Reached.after {admits : CaseMode → Table → Prop} {catalog : Catalog}
    (reached : catalog.Reached admits) (history : List Operation)
    (allowed : ∀ operation ∈ history, operation.keepsCaseMode = true ∧
      ∀ table ∈ operation.newTable?, admits catalog.caseMode table) :
    (catalog.after history).Reached admits := by
  induction history generalizing catalog with
  | nil => exact reached
  | cons operation history ih =>
    rw [List.forall_mem_cons] at allowed
    obtain ⟨⟨keeps, handed⟩, later⟩ := allowed
    have sameMode : (operation.applyTo catalog).caseMode = catalog.caseMode :=
      operation.applyTo_caseMode keeps catalog
    rw [← sameMode] at later
    exact ih (reached.perform operation keeps handed) later

/-- What holds of the empty catalog and is kept by every step and by every other order holds of
every reached catalog. -/
theorem Reached.induction {admits : CaseMode → Table → Prop} {motive : Catalog → Prop}
    (start : ∀ name mode, motive (started name mode))
    (step : ∀ catalog catalog', Step (admits catalog.caseMode) catalog catalog' →
      motive catalog → motive catalog')
    (order : ∀ catalog other : Catalog, catalog.Reordered other →
      other.currentSchema = catalog.currentSchema → motive catalog → motive other)
    {catalog : Catalog} (reached : catalog.Reached admits) : motive catalog := by
  induction reached with
  | start name mode => exact start name mode
  | @perform catalog operation reached keeps handed ih =>
    rcases Operation.applyTo_cases keeps handed catalog with same | made
    · rw [same]
      exact ih
    · exact step _ _ made ih
  | enumerate reached reordered current collation ih => exact order _ _ reordered current ih

/-- What holds of the empty schemas and is kept by the steps of a schema, whatever the order, holds
of every schema of a reached catalog. -/
theorem Reached.forall_schemas {admits : CaseMode → Table → Prop}
    {motive : CaseMode → String → Schema → Prop}
    (new : ∀ mode name, motive mode name (Schema.empty name))
    (kept : ∀ mode key schema schema', Schema.Step (admits mode) mode schema schema' →
      motive mode key schema → motive mode key schema')
    (order : ∀ mode key (schema other : Schema), schema.Reordered other →
      motive mode key schema → motive mode key other)
    {catalog : Catalog} (reached : catalog.Reached admits) :
    ∀ key schema, catalog.schemas.find? key = some schema →
      motive catalog.caseMode key schema := by
  refine reached.induction (motive := fun catalog => ∀ key schema,
    catalog.schemas.find? key = some schema → motive catalog.caseMode key schema) ?_ ?_ ?_
  · intro name mode
    exact Keyed.forall_insertNew (fun _ _ found => nomatch found) rfl (new _ _)
  · intro catalog catalog' step h
    rw [step.caseMode_eq]
    exact step.forall_schemas (new _) (kept _) h
  · intro catalog other reordered current h key schema found
    obtain ⟨before, found', same⟩ := reordered.exists_of_find? found
    rw [← reordered.caseMode]
    exact order _ key _ schema same (h key before found')

end Catalog

end CatalogViews
