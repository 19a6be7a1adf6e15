import CatalogViews.Catalog.Lookup
import CatalogViews.Proofs.CatalogSteps

/-!
# Names in a reached catalog

Schemas are kept under their declared names, and no two of these are the same identifier. Tables and
synonyms are kept under the keys of their declared names, and a schema uses no key for both. This is
`Catalog.WellNamed`; it holds of every reached catalog.

In such a catalog a lookup finds what has the name, wherever it stands among the schemas, and a
located table is determined by the names of its schema and of itself.
-/

namespace CatalogViews

theorem Table.Step.name_eq {mode : CaseMode} {table table' : Table}
    (step : Table.Step mode table table') : table'.name = table.name := by
  cases step <;> rfl

namespace Schema

/-- The names of a schema that is kept under the given key. -/
structure WellNamed (mode : CaseMode) (key : String) (schema : Schema) : Prop where
  declared : schema.name = key
  tables : ∀ key table, schema.tables.find? key = some table → key = mode.key table.name
  synonyms : ∀ key synonym, schema.synonyms.find? key = some synonym → key = mode.key synonym.name
  disjoint : ∀ key, schema.tables.find? key = none ∨ schema.synonyms.find? key = none

variable {admits : Table → Prop} {mode : CaseMode} {schema schema' : Schema}

theorem WellNamed.empty (name : String) : (Schema.empty name).WellNamed mode name := by
  constructor <;> simp [Schema.empty]

theorem Step.name_eq (step : Step admits mode schema schema') : schema'.name = schema.name := by
  cases step <;> rfl

theorem Step.forall_synonyms {property : String → Synonym → Prop}
    (new : ∀ synonym, property (mode.key synonym.name) synonym)
    (step : Step admits mode schema schema')
    (h : ∀ key synonym, schema.synonyms.find? key = some synonym → property key synonym) :
    ∀ key synonym, schema'.synonyms.find? key = some synonym → property key synonym := by
  cases step with
  | createTable admitted free => exact h
  | createSynonym free =>
    exact Keyed.forall_insertNew h (find?_eq_none_of_hasKey free).2 (new _)
  | dropTable dropped => exact h
  | dropSynonym dropped => exact Keyed.forall_erase h
  | editTable edited step => exact h

/-- A new name is free among the tables and among the synonyms. -/
theorem Step.disjoint (step : Step admits mode schema schema')
    (h : ∀ key, schema.tables.find? key = none ∨ schema.synonyms.find? key = none) :
    ∀ key, schema'.tables.find? key = none ∨ schema'.synonyms.find? key = none := by
  intro key
  cases step with
  | createTable admitted free =>
    obtain ⟨noTable, noSynonym⟩ := find?_eq_none_of_hasKey free
    rw [Keyed.find?_insertNew noTable]
    split
    · rename_i here
      rw [here]
      exact .inr noSynonym
    · exact h key
  | createSynonym free =>
    obtain ⟨noTable, noSynonym⟩ := find?_eq_none_of_hasKey free
    rw [Keyed.find?_insertNew noSynonym]
    split
    · rename_i here
      rw [here]
      exact .inl noTable
    · exact h key
  | dropTable dropped =>
    rw [Keyed.find?_erase]
    split
    · exact .inl rfl
    · exact h key
  | dropSynonym dropped =>
    rw [Keyed.find?_erase]
    split
    · exact .inr rfl
    · exact h key
  | editTable edited step =>
    rw [Keyed.find?_replace edited]
    split
    · rename_i here
      rw [here]
      refine .inr ((h _).resolve_left ?_)
      rw [edited]
      exact Option.some_ne_none _
    · exact h key

theorem Step.wellNamed {key : String} (step : Step admits mode schema schema')
    (h : schema.WellNamed mode key) : schema'.WellNamed mode key where
  declared := step.name_eq.trans h.declared
  tables := by
    refine step.forall_tables (fun _ _ => rfl) (fun key table table' step same => ?_) h.tables
    rw [step.name_eq]
    exact same
  synonyms := step.forall_synonyms (fun _ => rfl) h.synonyms
  disjoint := step.disjoint h.disjoint

theorem WellNamed.of_reordered {key : String} (h : schema.WellNamed mode key)
    (reordered : schema.Reordered schema') : schema'.WellNamed mode key where
  declared := reordered.name.symm.trans h.declared
  tables key table found := h.tables key table ((reordered.tables key).trans found)
  synonyms key synonym found := h.synonyms key synonym ((reordered.synonyms key).trans found)
  disjoint key := by
    rw [← reordered.tables, ← reordered.synonyms]
    exact h.disjoint key

end Schema

namespace Catalog

/-- What the names of a catalog satisfy. -/
structure WellNamed (catalog : Catalog) : Prop where
  schemas : ∀ key schema, catalog.schemas.find? key = some schema →
    schema.WellNamed catalog.caseMode key
  distinct : ∀ key ∈ catalog.schemas.keys, ∀ other ∈ catalog.schemas.keys,
    catalog.caseMode.key key = catalog.caseMode.key other → key = other

variable {catalog catalog' : Catalog} {name : String}

theorem schemaKey?_eq_some {key : String} (h : catalog.schemaKey? name = some key) :
    key ∈ catalog.schemas.keys ∧ catalog.caseMode.key key = catalog.caseMode.key name := by
  unfold schemaKey? at h
  split at h
  · rename_i used
    cases h
    exact ⟨Keyed.contains_iff.mp used, rfl⟩
  · split at h
    · cases h
    · rename_i folds
      rw [folds]
      exact ⟨List.mem_of_find?_eq_some h, by simpa [CaseMode.same_iff] using List.find?_some h⟩

theorem schemaKey?_eq_none_iff :
    catalog.schemaKey? name = none ↔
      ∀ key ∈ catalog.schemas.keys, catalog.caseMode.key key ≠ catalog.caseMode.key name := by
  constructor
  · intro missing key used same
    unfold schemaKey? at missing
    split at missing
    · cases missing
    · rename_i unused
      split at missing
      · rename_i keeps
        rw [keeps] at same
        obtain rfl : key = name := same
        exact unused (Keyed.contains_iff.mpr used)
      · rename_i folds
        rw [folds] at same
        exact List.find?_eq_none.mp missing key used (CaseMode.same_iff.mpr same)
  · intro distinct
    cases found : catalog.schemaKey? name with
    | none => rfl
    | some key =>
      obtain ⟨used, same⟩ := schemaKey?_eq_some found
      exact absurd same (distinct key used)

theorem schema?_eq_none_iff :
    catalog.schema? name = none ↔
      ∀ key ∈ catalog.schemas.keys, catalog.caseMode.key key ≠ catalog.caseMode.key name := by
  rw [← schemaKey?_eq_none_iff, schema?, Option.bind_eq_none_iff]
  constructor
  · intro unused
    cases found : catalog.schemaKey? name with
    | none => rfl
    | some key =>
      obtain ⟨schema, kept⟩ := Keyed.mem_keys_iff.mp (schemaKey?_eq_some found).1
      rw [unused key found] at kept
      cases kept
  · intro missing key found
    rw [missing] at found
    cases found

theorem Step.distinct {admits : Table → Prop} (step : Step admits catalog catalog')
    (h : ∀ key ∈ catalog.schemas.keys, ∀ other ∈ catalog.schemas.keys,
      catalog.caseMode.key key = catalog.caseMode.key other → key = other) :
    ∀ key ∈ catalog'.schemas.keys, ∀ other ∈ catalog'.schemas.keys,
      catalog'.caseMode.key key = catalog'.caseMode.key other → key = other := by
  rw [step.caseMode_eq]
  cases step with
  | createSchema free =>
    rw [Keyed.keys_insertNew (find?_schemas_of_schema?_eq_none free)]
    rw [schema?_eq_none_iff] at free
    simp only [List.mem_append, List.mem_singleton]
    rintro key (old | rfl) other (old' | rfl) same
    · exact h key old other old' same
    · exact absurd same (free key old)
    · exact absurd same.symm (free other old')
    · rfl
  | dropSchema other dropped =>
    rw [Keyed.keys_erase]
    intro key left other left' same
    exact h key (List.mem_of_mem_filter left) other (List.mem_of_mem_filter left') same
  | setCurrentSchema resolved => exact h
  | editSchema edited step =>
    rw [Keyed.keys_replace]
    exact h
  | setCollation collation => exact h

theorem WellNamed.of_reordered (h : catalog.WellNamed) (reordered : catalog.Reordered catalog') :
    catalog'.WellNamed where
  schemas key schema found := by
    obtain ⟨before, found', same⟩ := reordered.exists_of_find? found
    rw [← reordered.caseMode]
    exact (h.schemas key before found').of_reordered same
  distinct := by
    simp only [← Keyed.mem_keys_congr reordered.schemas, ← reordered.caseMode]
    exact h.distinct

theorem Reached.wellNamed {admits : CaseMode → Table → Prop} (reached : catalog.Reached admits) :
    catalog.WellNamed := by
  refine reached.induction ?_ ?_ ?_
  · intro name mode
    constructor
    · exact Keyed.forall_insertNew (fun _ _ found => nomatch found) rfl (.empty mainSchemaName)
    · intro key used other used' _
      rw [started_schemas, named, Keyed.keys_insertNew rfl] at used used'
      exact (List.mem_singleton.mp used).trans (List.mem_singleton.mp used').symm
  · intro catalog catalog' step h
    constructor
    · rw [step.caseMode_eq]
      exact step.forall_schemas .empty (fun _ _ _ step h => step.wellNamed h) h.schemas
    · exact step.distinct h.distinct
  · intro catalog other reordered current h
    exact h.of_reordered reordered

namespace WellNamed

variable {schema : Schema}

theorem declaredNames (h : catalog.WellNamed) (key : String) (schema : Schema)
    (found : catalog.schemas.find? key = some schema) : key = schema.name :=
  (h.schemas key schema found).declared.symm

theorem find?_schemas (h : catalog.WellNamed) :
    catalog.schemas.find? name = some schema ↔
      schema ∈ catalog.schemas.values ∧ schema.name = name :=
  Keyed.find?_eq_some_iff_mem_values h.declaredNames

/-- The schema that a name means is the one whose declared name is the same identifier. -/
theorem schema?_eq_some_iff (h : catalog.WellNamed) :
    catalog.schema? name = some schema ↔
      schema ∈ catalog.schemas.values ∧
        catalog.caseMode.key schema.name = catalog.caseMode.key name := by
  constructor
  · intro found
    obtain ⟨key, resolved, kept⟩ := Option.bind_eq_some_iff.mp found
    obtain ⟨listed, rfl⟩ := h.find?_schemas.mp kept
    exact ⟨listed, (schemaKey?_eq_some resolved).2⟩
  · rintro ⟨listed, same⟩
    have kept : catalog.schemas.find? schema.name = some schema := h.find?_schemas.mpr ⟨listed, rfl⟩
    have used : schema.name ∈ catalog.schemas.keys := Keyed.mem_keys_iff.mpr ⟨schema, kept⟩
    cases resolved : catalog.schemaKey? name with
    | none => exact absurd same (schemaKey?_eq_none_iff.mp resolved schema.name used)
    | some key =>
      obtain ⟨used', same'⟩ := schemaKey?_eq_some resolved
      have : key = schema.name := h.distinct key used' _ used (same'.trans same.symm)
      rw [schema?, resolved, Option.bind_some, this]
      exact kept

/-- The key that a name resolves to is one of the keys, so their order does not matter. -/
theorem schemaKey?_congr (h : catalog.WellNamed) {other : Catalog}
    (sameMode : other.caseMode = catalog.caseMode)
    (sameKeys : ∀ key, key ∈ other.schemas.keys ↔ key ∈ catalog.schemas.keys) :
    other.schemaKey? name = catalog.schemaKey? name := by
  cases here : catalog.schemaKey? name with
  | none =>
    rw [schemaKey?_eq_none_iff] at here ⊢
    intro key used
    rw [sameMode]
    exact here key ((sameKeys key).mp used)
  | some key =>
    obtain ⟨used, same⟩ := schemaKey?_eq_some here
    cases there : other.schemaKey? name with
    | none =>
      have different := schemaKey?_eq_none_iff.mp there key ((sameKeys key).mpr used)
      rw [sameMode] at different
      exact absurd same different
    | some key' =>
      obtain ⟨used', same'⟩ := schemaKey?_eq_some there
      rw [sameMode] at same'
      have equal := h.distinct key' ((sameKeys key').mp used') key used (same'.trans same.symm)
      rw [equal]

/-- Two schemas of the catalog whose names are the same identifier are the same. -/
theorem schema_eq (h : catalog.WellNamed) {other : Schema}
    (listed : schema ∈ catalog.schemas.values) (listed' : other ∈ catalog.schemas.values)
    (same : catalog.caseMode.key schema.name = catalog.caseMode.key other.name) :
    schema = other := by
  have first := h.schema?_eq_some_iff.mpr ⟨listed, same⟩
  have second := h.schema?_eq_some_iff.mpr ⟨listed', rfl⟩
  exact Option.some.inj (first.symm.trans second)

theorem schema_wellNamed (h : catalog.WellNamed) (listed : schema ∈ catalog.schemas.values) :
    schema.WellNamed catalog.caseMode schema.name :=
  h.schemas schema.name schema (h.find?_schemas.mpr ⟨listed, rfl⟩)

end WellNamed

end Catalog

namespace Located

/-- A located table is where it says. -/
structure Kept (catalog : Catalog) (located : Located) : Prop where
  schema : located.schema ∈ catalog.schemas.values
  table : located.schema.tables.find? located.key = some located.table

variable {catalog : Catalog} {located other : Located}

theorem Kept.key_eq (kept : located.Kept catalog) (h : catalog.WellNamed) :
    located.key = catalog.caseMode.key located.table.name :=
  (h.schema_wellNamed kept.schema).tables _ _ kept.table

theorem Kept.eq_of_key (kept : located.Kept catalog) (kept' : other.Kept catalog)
    (h : catalog.WellNamed)
    (sameSchema : catalog.caseMode.key located.schema.name = catalog.caseMode.key other.schema.name)
    (sameKey : located.key = other.key) : located = other := by
  obtain ⟨schema, key, table⟩ := located
  obtain ⟨schema', key', table'⟩ := other
  obtain rfl : schema = schema' := h.schema_eq kept.schema kept'.schema sameSchema
  obtain rfl : key = key' := sameKey
  obtain rfl : table = table' := Option.some.inj (kept.table.symm.trans kept'.table)
  rfl

/-- The names of the schema and of the table determine a located table. -/
theorem Kept.eq_of_names (kept : located.Kept catalog) (kept' : other.Kept catalog)
    (h : catalog.WellNamed)
    (sameSchema : catalog.caseMode.key located.schema.name = catalog.caseMode.key other.schema.name)
    (sameTable : catalog.caseMode.key located.table.name = catalog.caseMode.key other.table.name) :
    located = other := by
  refine kept.eq_of_key kept' h sameSchema ?_
  rw [kept.key_eq h, kept'.key_eq h, sameTable]

theorem Kept.sameAs_iff (kept : located.Kept catalog) (kept' : other.Kept catalog)
    (h : catalog.WellNamed) : located.sameAs other = true ↔ located = other := by
  simp only [sameAs, Bool.and_eq_true, beq_iff_eq]
  constructor
  · rintro ⟨sameSchema, sameKey⟩
    exact kept.eq_of_key kept' h (congrArg _ sameSchema) sameKey
  · rintro rfl
    exact ⟨rfl, rfl⟩

end Located

namespace Catalog

variable {catalog : Catalog} {name : String} {located : Located}

/-- A table of a schema is kept under the key of its name. -/
theorem WellNamed.kept_of_owned (h : catalog.WellNamed) {schema : Schema} {table : Table}
    (listed : schema ∈ catalog.schemas.values) (owned : table ∈ schema.tables.values) :
    Located.Kept catalog ⟨schema, catalog.caseMode.key table.name, table⟩ := by
  have names := (h.schema_wellNamed listed).tables
  exact ⟨listed, (Keyed.find?_eq_some_iff_mem_values names).mpr ⟨owned, rfl⟩⟩

theorem WellNamed.kept_of_target? (h : catalog.WellNamed) {synonym : Synonym}
    (found : catalog.target? synonym = some located) : located.Kept catalog := by
  obtain ⟨schema, named, rest⟩ := Option.bind_eq_some_iff.mp found
  obtain ⟨table, kept, made⟩ := Option.bind_eq_some_iff.mp rest
  cases made
  exact ⟨(h.schema?_eq_some_iff.mp named).1, kept⟩

theorem WellNamed.kept_of_findTable? (h : catalog.WellNamed) {schema : Schema}
    (listed : schema ∈ catalog.schemas.values)
    (found : catalog.findTable? schema name = some located) : located.Kept catalog := by
  unfold findTable? at found
  split at found
  · rename_i table kept
    cases found
    exact ⟨listed, kept⟩
  · obtain ⟨synonym, _, target⟩ := Option.bind_eq_some_iff.mp found
    exact h.kept_of_target? target

theorem WellNamed.kept_of_findTableIn? (h : catalog.WellNamed) {schema : String}
    (found : catalog.findTableIn? schema name = some located) : located.Kept catalog := by
  obtain ⟨owner, named, found⟩ := Option.bind_eq_some_iff.mp found
  exact h.kept_of_findTable? (h.schema?_eq_some_iff.mp named).1 found

/-- A table is found in its schema under its own name. -/
theorem WellNamed.findTable?_own (h : catalog.WellNamed) (kept : located.Kept catalog) :
    catalog.findTable? located.schema located.table.name = some located := by
  have found := kept.table
  rw [kept.key_eq h] at found
  rw [findTable?, Schema.table?, found, ← kept.key_eq h]

theorem WellNamed.find?_synonym (h : catalog.WellNamed) {owner : Schema} {synonym : Synonym}
    (listed : owner ∈ catalog.schemas.values) (owned : synonym ∈ owner.synonyms.values) :
    owner.synonyms.find? (catalog.caseMode.key synonym.name) = some synonym := by
  have names := h.schema_wellNamed listed
  exact (Keyed.find?_eq_some_iff_mem_values names.synonyms).mpr ⟨owned, rfl⟩

/-- No table of a schema has the name of one of its synonyms. -/
theorem WellNamed.find?_table_of_synonym (h : catalog.WellNamed) {owner : Schema}
    {synonym : Synonym} (listed : owner ∈ catalog.schemas.values)
    (owned : synonym ∈ owner.synonyms.values) :
    owner.tables.find? (catalog.caseMode.key synonym.name) = none := by
  have names := h.schema_wellNamed listed
  apply (names.disjoint _).resolve_right
  rw [h.find?_synonym listed owned]
  exact Option.some_ne_none synonym

theorem WellNamed.findTable?_synonym (h : catalog.WellNamed) {owner : Schema} {synonym : Synonym}
    (listed : owner ∈ catalog.schemas.values) (owned : synonym ∈ owner.synonyms.values) :
    catalog.findTable? owner synonym.name = catalog.target? synonym := by
  rw [findTable?, Schema.table?, h.find?_table_of_synonym listed owned, Schema.synonym?,
    h.find?_synonym listed owned]
  rfl

end Catalog

namespace CaseMode

/-- No two names of a list are the same identifier. -/
def Distinguishes (mode : CaseMode) (names : List String) : Prop :=
  names.Pairwise fun a b => mode.same a b = false

/-- A lookup finds the value whose declared name is the same identifier, and nothing where there is
none. -/
def FindsByName {α : Type} (mode : CaseMode) (nameOf : α → String) (values : List α)
    (find? : String → Option α) : Prop :=
  ∀ name,
    (∀ value, find? name = some value ↔
      value ∈ values ∧ mode.same (nameOf value) name = true) ∧
    (find? name = none ↔ ∀ value ∈ values, mode.same (nameOf value) name = false)

variable {mode : CaseMode}

theorem distinguishes_iff {names : List String} :
    mode.Distinguishes names ↔ (names.map mode.key).Nodup := by
  simp [Distinguishes, List.Nodup, List.pairwise_map, same]

theorem findsByName_of_find? {α : Type} {nameOf : α → String} {m : Keyed α}
    (determined : ∀ key value, m.find? key = some value → key = mode.key (nameOf value)) :
    mode.FindsByName nameOf m.values fun name => m.find? (mode.key name) := by
  intro name
  constructor
  · intro value
    simp only [Keyed.find?_eq_some_iff_mem_values determined, same_iff]
  · simp only [Keyed.find?_eq_none_iff_values determined, same, beq_eq_false_iff_ne]

end CaseMode

theorem Schema.WellNamed.nodup_objectKeys {mode : CaseMode} {key : String} {schema : Schema}
    (h : schema.WellNamed mode key) :
    ((schema.tables.values.map (·.name) ++ schema.synonyms.values.map (·.name)).map
      mode.key).Nodup := by
  have tables : (schema.tables.values.map (·.name)).map mode.key = schema.tables.keys := by
    rw [List.map_map]
    exact Keyed.map_values_eq_keys h.tables
  have synonyms : (schema.synonyms.values.map (·.name)).map mode.key = schema.synonyms.keys := by
    rw [List.map_map]
    exact Keyed.map_values_eq_keys h.synonyms
  have disjoint : ∀ key ∈ schema.tables.keys, key ∉ schema.synonyms.keys := by
    intro key used
    rw [← Keyed.find?_eq_none_iff]
    apply (h.disjoint key).resolve_left
    rw [Keyed.find?_eq_none_iff]
    exact not_not_intro used
  rw [List.map_append, tables, synonyms, List.nodup_append']
  exact ⟨schema.tables.nodup, schema.synonyms.nodup, disjoint⟩

namespace Catalog

/-- Names tell the objects of a catalog apart, and lookups go by them. -/
structure NamesIdentify (catalog : Catalog) : Prop where
  schemas_distinct : catalog.caseMode.Distinguishes (catalog.schemas.values.map (·.name))
  objects_distinct : ∀ schema ∈ catalog.schemas.values, catalog.caseMode.Distinguishes
    (schema.tables.values.map (·.name) ++ schema.synonyms.values.map (·.name))
  schema? : catalog.caseMode.FindsByName (·.name) catalog.schemas.values catalog.schema?
  /-- The schemas may be enumerated in any order. -/
  schema?_anyOrder : ∀ other : Catalog, other.caseMode = catalog.caseMode →
    other.schemas.entries.Perm catalog.schemas.entries → other.schema? = catalog.schema?
  table? : ∀ schema ∈ catalog.schemas.values, catalog.caseMode.FindsByName (·.name)
    schema.tables.values (schema.table? catalog.caseMode)
  synonym? : ∀ schema ∈ catalog.schemas.values, catalog.caseMode.FindsByName (·.name)
    schema.synonyms.values (schema.synonym? catalog.caseMode)

variable {catalog : Catalog}

theorem WellNamed.schemas_distinct (h : catalog.WellNamed) :
    catalog.caseMode.Distinguishes (catalog.schemas.values.map (·.name)) := by
  rw [CaseMode.distinguishes_iff, Keyed.map_values_eq_keys h.declaredNames]
  apply catalog.schemas.nodup.map_on
  intro key used other used' same
  exact h.distinct key used other used' same

theorem WellNamed.findsByName_schema? (h : catalog.WellNamed) :
    catalog.caseMode.FindsByName (·.name) catalog.schemas.values catalog.schema? := by
  intro name
  constructor
  · intro schema
    rw [h.schema?_eq_some_iff, CaseMode.same_iff]
  · rw [schema?_eq_none_iff, ← Keyed.map_values_eq_keys h.declaredNames, List.forall_mem_map]
    simp only [CaseMode.same, beq_eq_false_iff_ne, ne_eq]

theorem WellNamed.schema?_eq_of_perm (h : catalog.WellNamed) {other : Catalog}
    (sameMode : other.caseMode = catalog.caseMode)
    (reordered : other.schemas.entries.Perm catalog.schemas.entries) :
    other.schema? = catalog.schema? := by
  funext name
  have sameKeys : ∀ key, key ∈ other.schemas.keys ↔ key ∈ catalog.schemas.keys :=
    fun key => (reordered.map _).mem_iff
  have sameFind : other.schemas.find? = catalog.schemas.find? :=
    funext (Keyed.find?_eq_of_perm reordered)
  rw [schema?, schema?, h.schemaKey?_congr sameMode sameKeys, sameFind]

/-- In a reached catalog the names of the schemas, and those of the tables and synonyms of a schema
taken together, are different identifiers, and every lookup goes by them. -/
theorem Reached.namesIdentify (reached : catalog.Reached fun _ _ => True) :
    catalog.NamesIdentify := by
  have h := reached.wellNamed
  constructor
  · exact h.schemas_distinct
  · intro schema listed
    rw [CaseMode.distinguishes_iff]
    exact (h.schema_wellNamed listed).nodup_objectKeys
  · exact h.findsByName_schema?
  · intro other sameMode reordered
    exact h.schema?_eq_of_perm sameMode reordered
  · intro schema listed
    exact CaseMode.findsByName_of_find? (h.schema_wellNamed listed).tables
  · intro schema listed
    exact CaseMode.findsByName_of_find? (h.schema_wellNamed listed).synonyms

/-- The folded names are longer than the declared ones; what was dropped leaves its name free. -/
theorem namesIdentify_of_expanding_folds :
    let table (name : String) : Table := { name, columns := [{ name := "A", type := .integer }] }
    let catalog := (started "C" .insensitive).after
      [.createSchema "Straße", .createSchema "STRASSE", .createTableIn "strasse" (table "Maß"),
        .createSynonym "Strasse" ⟨"mass", "STRASSE", "MASS"⟩,
        .createSynonym "STRASSE" ⟨"ﬁt", "straße", "mass"⟩, .dropTable "STRASSE.MASS",
        .createTableIn "straße" (table "MASS")]
    catalog.schemas.values.map (·.name) = ["PUBLIC", "Straße"] ∧
      (catalog.schema? "sTRASSE").map (·.tables.values.map (·.name)) = some ["MASS"] ∧
      (catalog.schema? "strasse").map (·.synonyms.values.map (·.name)) = some ["ﬁt"] ∧
      catalog.NamesIdentify := by
  intro table catalog
  have reached : catalog.Reached fun _ _ => True := by
    refine (Reached.start "C" .insensitive).after _ ?_
    simp [Operation.keepsCaseMode]
  exact ⟨by decide +kernel, by decide +kernel, by decide +kernel, reached.namesIdentify⟩

end Catalog

end CatalogViews
