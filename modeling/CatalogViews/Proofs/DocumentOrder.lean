import CatalogViews.Proofs.MainSchema
import CatalogViews.Proofs.ScriptParts

/-!
# The order of a document

A fixture may list its schemas, and the tables and synonyms of each schema, in any order: it builds
in all orders or in none, and the catalogs that it gives are equal in the order of names
(`Fixture.build_of_permuted`).

Schemas are created once for each name, so where names that differ are different identifiers, the
created schemas do not depend on the order. All else is done by the parts of the script, and within
one of its three passes each part has a place of its own: no part looks at what another part of the
same pass does.
-/

namespace CatalogViews

namespace Catalog

/-- Schemas of the given names have been created where there were none, and nothing else has been
done. -/
structure AddsSchemas (names : List String) (catalog catalog' : Catalog) : Prop where
  name : catalog'.name = catalog.name
  currentSchema : catalog'.currentSchema = catalog.currentSchema
  collation : catalog'.collation = catalog.collation
  caseMode : catalog'.caseMode = catalog.caseMode
  keeps : ∀ key ∈ catalog.schemas.keys, key ∈ catalog'.schemas.keys
  adds : ∀ name ∈ names, ∃ key ∈ catalog'.schemas.keys,
    catalog.caseMode.key key = catalog.caseMode.key name
  given : ∀ key ∈ catalog'.schemas.keys, key ∈ catalog.schemas.keys ∨ key ∈ names
  tables : ∀ key place, catalog'.tableAt? key place = catalog.tableAt? key place
  synonyms : ∀ key place, catalog'.synonymAt? key place = catalog.synonymAt? key place

variable {catalog catalog' catalog'' : Catalog} {names names' : List String}

theorem AddsSchemas.refl (catalog : Catalog) : catalog.AddsSchemas [] catalog where
  name := rfl
  currentSchema := rfl
  collation := rfl
  caseMode := rfl
  keeps _ used := used
  adds := nofun
  given _ used := .inl used
  tables _ _ := rfl
  synonyms _ _ := rfl

theorem AddsSchemas.trans (adds : catalog.AddsSchemas names catalog')
    (adds' : catalog'.AddsSchemas names' catalog'') :
    catalog.AddsSchemas (names ++ names') catalog'' where
  name := adds'.name.trans adds.name
  currentSchema := adds'.currentSchema.trans adds.currentSchema
  collation := adds'.collation.trans adds.collation
  caseMode := adds'.caseMode.trans adds.caseMode
  keeps key used := adds'.keeps key (adds.keeps key used)
  adds name listed := by
    rcases List.mem_append.mp listed with first | second
    · obtain ⟨key, used, same⟩ := adds.adds name first
      exact ⟨key, adds'.keeps key used, same⟩
    · obtain ⟨key, used, same⟩ := adds'.adds name second
      rw [adds.caseMode] at same
      exact ⟨key, used, same⟩
  given key used := by
    rcases adds'.given key used with before | listed
    · rcases adds.given key before with before | listed
      · exact .inl before
      · exact .inr (List.mem_append_left _ listed)
    · exact .inr (List.mem_append_right _ listed)
  tables key place := (adds'.tables key place).trans (adds.tables key place)
  synonyms key place := (adds'.synonyms key place).trans (adds.synonyms key place)

theorem addsSchemas_createSchema (catalog : Catalog) (name : String) :
    catalog.AddsSchemas [name] ((Operation.createSchema name).applyTo catalog) := by
  cases free : catalog.schema? name with
  | some owner =>
    have left : (Operation.createSchema name).applyTo catalog = catalog := by
      simp only [Operation.applyTo, Operation.perform, createSchema, free, Option.isSome_some,
        if_true]
    rw [left]
    refine { AddsSchemas.refl catalog with adds := ?_, given := fun _ used => .inl used }
    intro other listed
    rw [List.mem_singleton.mp listed]
    by_contra none
    rw [schema?_eq_none_iff.mpr fun key used same => none ⟨key, used, same⟩] at free
    cases free
  | none =>
    have left : (Operation.createSchema name).applyTo catalog =
        { catalog with schemas := catalog.schemas.insertNew name (Schema.empty name) } := by
      simp only [Operation.applyTo, Operation.perform, createSchema, free, Option.isSome_none]
      rfl
    have fresh := find?_schemas_of_schema?_eq_none free
    rw [left]
    constructor <;> try rfl
    · intro key used
      rw [Keyed.keys_insertNew fresh]
      exact List.mem_append_left _ used
    · intro other listed
      rw [List.mem_singleton.mp listed, Keyed.keys_insertNew fresh]
      exact ⟨name, List.mem_append_right _ (List.mem_singleton_self name), rfl⟩
    · intro key used
      rw [Keyed.keys_insertNew fresh] at used
      exact List.mem_append.mp used
    · intro key place
      exact bind_find?_insertNew fresh Schema.tables rfl
    · intro key place
      exact bind_find?_insertNew fresh Schema.synonyms rfl

theorem addsSchemas_after (catalog : Catalog) (names : List String) :
    catalog.AddsSchemas names (catalog.after (names.map .createSchema)) := by
  induction names generalizing catalog with
  | nil => exact .refl catalog
  | cons name names ih => exact (catalog.addsSchemas_createSchema name).trans (ih _)

/-- Among names that are different identifiers where they differ, those that are no identifier of
an older schema become schemas. -/
theorem AddsSchemas.mem_keys_iff (adds : catalog.AddsSchemas names catalog')
    (h : catalog'.WellNamed)
    (apart : ∀ a ∈ names, ∀ b ∈ names, catalog.caseMode.key a = catalog.caseMode.key b → a = b)
    (key : String) :
    key ∈ catalog'.schemas.keys ↔ key ∈ catalog.schemas.keys ∨ key ∈ names ∧
      ∀ older ∈ catalog.schemas.keys, catalog.caseMode.key older ≠ catalog.caseMode.key key := by
  have distinct := h.distinct
  rw [adds.caseMode] at distinct
  constructor
  · intro used
    by_cases old : key ∈ catalog.schemas.keys
    · exact .inl old
    · refine .inr ⟨(adds.given key used).resolve_left old, fun older member same => old ?_⟩
      rw [← distinct older (adds.keeps older member) key used same]
      exact member
  · rintro (old | ⟨listed, new⟩)
    · exact adds.keeps key old
    · obtain ⟨added, used, same⟩ := adds.adds key listed
      rcases adds.given added used with old | listed'
      · exact absurd same (new added old)
      · rw [← apart added listed' key listed same]
        exact used

theorem WellNamed.map_name_find? (h : catalog.WellNamed) (key : String) :
    (catalog.schemas.find? key).map (·.name) =
      if key ∈ catalog.schemas.keys then some key else none := by
  cases found : catalog.schemas.find? key with
  | none => rw [if_neg (Keyed.find?_eq_none_iff.mp found), Option.map_none]
  | some owner =>
    rw [if_pos (Keyed.mem_keys_iff.mpr ⟨owner, found⟩), Option.map_some,
      (h.schemas key owner found).declared]

/-- Well-named catalogs with the same settings and the same keys have the same frame. -/
theorem WellNamed.sameFrame (h : catalog.WellNamed) (h' : catalog'.WellNamed)
    (name : catalog.name = catalog'.name)
    (currentSchema : catalog.currentSchema = catalog'.currentSchema)
    (collation : catalog.collation = catalog'.collation)
    (caseMode : catalog.caseMode = catalog'.caseMode)
    (keys : ∀ key, key ∈ catalog.schemas.keys ↔ key ∈ catalog'.schemas.keys) :
    catalog.SameFrame catalog' where
  name := name
  currentSchema := currentSchema
  collation := collation
  caseMode := caseMode
  schemaKey? _ := h'.schemaKey?_congr caseMode keys
  names key := by
    rw [h.map_name_find?, h'.map_name_find?]
    simp only [keys]

end Catalog

namespace Fixture

/-- The names of the listed schemas. -/
def schemaNames (fixture : Fixture) : List String :=
  fixture.schemas.map (·.name)

/-- The described tables, with the names under which their schemas are listed. -/
def tables (fixture : Fixture) : List (String × TableSpec) :=
  fixture.schemas.flatMap fun schema => schema.tables.map fun spec => (schema.name, spec)

/-- The synonyms, with the names under which their schemas are listed. -/
def synonyms (fixture : Fixture) : List (String × Synonym) :=
  fixture.schemas.flatMap fun schema => schema.synonyms.map fun synonym => (schema.name, synonym)

/-- Names of schemas that differ are different identifiers. -/
def SeparatesSchemas (fixture : Fixture) : Prop :=
  ∀ a ∈ fixture.schemaNames, ∀ b ∈ fixture.schemaNames,
    fixture.caseMode.same a b = true → a = b

/-- Two documents list the same, perhaps in other orders. -/
structure SameParts (fixture other : Fixture) : Prop where
  name : fixture.name = other.name
  caseMode : fixture.caseMode = other.caseMode
  collation : fixture.collation = other.collation
  schemas : fixture.schemaNames.Perm other.schemaNames
  tables : fixture.tables.Perm other.tables
  synonyms : fixture.synonyms.Perm other.synonyms

variable {fixture other : Fixture} {catalog : Catalog}

theorem SameParts.symm (same : fixture.SameParts other) : other.SameParts fixture :=
  ⟨same.name.symm, same.caseMode.symm, same.collation.symm, same.schemas.symm, same.tables.symm,
    same.synonyms.symm⟩

theorem SeparatesSchemas.of_sameParts (apart : fixture.SeparatesSchemas)
    (same : fixture.SameParts other) : other.SeparatesSchemas := by
  intro a listed b listed' identifiers
  rw [← same.caseMode] at identifiers
  exact apart a (same.schemas.mem_iff.mpr listed) b (same.schemas.mem_iff.mpr listed') identifiers

theorem script_eq (fixture : Fixture) :
    fixture.script = (fixture.tables.flatMap fun described => described.2.creation described.1) ++
      (fixture.tables.flatMap fun described => described.2.references described.1) ++
      fixture.synonyms.flatMap fun described =>
        [.ok (.createSynonym described.1 described.2)] := by
  simp only [script, tables, synonyms, List.flatMap_assoc, List.map_eq_flatMap,
    List.flatMap_singleton]

/-- The catalog with the settings of the fixture, before its schemas are created. -/
def blank (fixture : Fixture) : Catalog :=
  { Catalog.named fixture.name with
    collation := fixture.collation, caseMode := fixture.caseMode }

theorem addsSchemas_initial (fixture : Fixture) :
    fixture.blank.AddsSchemas fixture.schemaNames fixture.initial := by
  have adds := fixture.blank.addsSchemas_after fixture.schemaNames
  rw [schemaNames, List.map_map] at adds
  exact adds

theorem reached_initial (fixture : Fixture) : fixture.initial.Reached fun _ _ => True := by
  refine (Catalog.Reached.start fixture.name fixture.caseMode).after (.setCollation
    fixture.collation :: fixture.schemas.map fun schema => .createSchema schema.name) ?_
  simp [Operation.keepsCaseMode]

theorem reached_of_run {steps : List ScriptStep} {left : Catalog}
    (reached : catalog.Reached fun _ _ => True)
    (keep : ∀ operation, .ok operation ∈ steps → operation.keepsCaseMode = true)
    (ran : run steps catalog = .ok left) : left.Reached fun _ _ => True := by
  obtain ⟨history, given, rfl⟩ := exists_history_of_run ran
  exact reached.after history fun operation member =>
    ⟨keep operation (given operation member), fun _ _ => trivial⟩

theorem keepsCaseMode_of_mem_script {operation : Operation}
    (member : .ok operation ∈ fixture.script) : operation.keepsCaseMode = true := by
  rw [script_eq, List.mem_append, List.mem_append] at member
  simp only [List.mem_flatMap] at member
  rcases member with (⟨_, -, member⟩ | ⟨_, -, member⟩) | ⟨_, -, member⟩
  · rcases TableSpec.mem_creation member with ⟨_, -, rfl⟩ | ⟨_, rfl⟩ | ⟨_, rfl⟩ <;> rfl
  · rcases TableSpec.mem_references member with ⟨_, rfl⟩ | ⟨_, rfl⟩ <;> rfl
  · cases List.mem_singleton.mp member
    rfl

/-- What a fixture builds is a catalog that a history of operations leads to. -/
theorem reached_of_build (built : fixture.build = .ok catalog) :
    catalog.Reached fun _ _ => True :=
  reached_of_run fixture.reached_initial (fun _ => keepsCaseMode_of_mem_script) built

theorem tableAt?_initial (fixture : Fixture) (key place : String) :
    fixture.initial.tableAt? key place = none := by
  rw [fixture.addsSchemas_initial.tables]
  exact Catalog.bind_find?_insertNew rfl Schema.tables rfl

theorem synonymAt?_initial (fixture : Fixture) (key place : String) :
    fixture.initial.synonymAt? key place = none := by
  rw [fixture.addsSchemas_initial.synonyms]
  exact Catalog.bind_find?_insertNew rfl Schema.synonyms rfl

theorem exists_schemaKey?_initial {name : String} (listed : name ∈ fixture.schemaNames) :
    ∃ key, fixture.initial.schemaKey? name = some key := by
  have adds := fixture.addsSchemas_initial
  obtain ⟨key, used, same⟩ := adds.adds name listed
  rw [← adds.caseMode] at same
  apply Option.ne_none_iff_exists'.mp
  intro missing
  exact Catalog.schemaKey?_eq_none_iff.mp missing key used same

theorem sameFrame_initial (same : fixture.SameParts other) (apart : fixture.SeparatesSchemas) :
    fixture.initial.SameFrame other.initial := by
  have adds := fixture.addsSchemas_initial
  have adds' := other.addsSchemas_initial
  have h := fixture.reached_initial.wellNamed
  have h' := other.reached_initial.wellNamed
  have blank : fixture.blank = other.blank := by
    rw [Fixture.blank, Fixture.blank, same.name, same.collation, same.caseMode]
  rw [← blank] at adds'
  have apart' := apart.of_sameParts same
  have identifiers (names : List String)
      (apart : ∀ a ∈ names, ∀ b ∈ names, fixture.caseMode.same a b = true → a = b) :
      ∀ a ∈ names, ∀ b ∈ names,
        fixture.blank.caseMode.key a = fixture.blank.caseMode.key b → a = b :=
    fun a listed b listed' same => apart a listed b listed' (CaseMode.same_iff.mpr same)
  apply h.sameFrame h' (adds.name.trans adds'.name.symm)
    (adds.currentSchema.trans adds'.currentSchema.symm) (adds.collation.trans adds'.collation.symm)
    (adds.caseMode.trans adds'.caseMode.symm)
  intro key
  rw [SeparatesSchemas, ← same.caseMode] at apart'
  rw [adds.mem_keys_iff h (identifiers _ apart), adds'.mem_keys_iff h' (identifiers _ apart'),
    same.schemas.mem_iff]

/-- The place of a described table or synonym. -/
def placeOf (fixture : Fixture) (schema name : String) : String × String :=
  ((fixture.initial.schemaKey? schema).getD schema, fixture.initial.caseMode.key name)

theorem schemaKey?_eq_some_placeOf (frame : catalog.SameFrame fixture.initial) {schema : String}
    (listed : schema ∈ fixture.schemaNames) (name : String) :
    catalog.schemaKey? schema = some (fixture.placeOf schema name).1 := by
  obtain ⟨key, resolved⟩ := exists_schemaKey?_initial listed
  rw [frame.schemaKey?, placeOf, resolved, Option.getD_some]

theorem mem_schemaNames_of_tables {described : String × TableSpec}
    (member : described ∈ fixture.tables) : described.1 ∈ fixture.schemaNames := by
  obtain ⟨schema, listed, rest⟩ := List.mem_flatMap.mp member
  obtain ⟨spec, -, rfl⟩ := List.mem_map.mp rest
  exact List.mem_map_of_mem listed

theorem mem_schemaNames_of_synonyms {described : String × Synonym}
    (member : described ∈ fixture.synonyms) : described.1 ∈ fixture.schemaNames := by
  obtain ⟨schema, listed, rest⟩ := List.mem_flatMap.mp member
  obtain ⟨synonym, -, rfl⟩ := List.mem_map.mp rest
  exact List.mem_map_of_mem listed

theorem actsAt_tables (frame : catalog.SameFrame fixture.initial)
    (described : String × TableSpec) (member : described ∈ fixture.tables) :
    ActsAt (TakesTables catalog) tableUnder (fixture.placeOf described.1 described.2.name)
      (described.2.creation described.1)
      (tableAfter? catalog (described.2.creation described.1)) := by
  have resolved := schemaKey?_eq_some_placeOf frame (mem_schemaNames_of_tables member)
    described.2.name
  have acts := actsAt_creation resolved described.2
  rw [frame.caseMode] at acts
  exact acts

theorem actsAt_tableReferences (frame : catalog.SameFrame fixture.initial)
    (described : String × TableSpec) (member : described ∈ fixture.tables) :
    ActsAt (TakesReferences catalog) tableUnder (fixture.placeOf described.1 described.2.name)
      (described.2.references described.1)
      (tableAfter? catalog (described.2.references described.1)) := by
  have resolved := schemaKey?_eq_some_placeOf frame (mem_schemaNames_of_tables member)
    described.2.name
  have acts := actsAt_references resolved described.2
  rw [frame.caseMode] at acts
  exact acts

theorem actsAt_synonyms (frame : catalog.SameFrame fixture.initial)
    (described : String × Synonym) (member : described ∈ fixture.synonyms) :
    ActsAt (TakesSynonyms catalog) synonymUnder (fixture.placeOf described.1 described.2.name)
      [.ok (.createSynonym described.1 described.2)]
      (synonymEffect? catalog (fixture.placeOf described.1 described.2.name) described.2) := by
  have resolved := schemaKey?_eq_some_placeOf frame (mem_schemaNames_of_synonyms member)
    described.2.name
  have acts := actsAt_synonym resolved described.2
  rw [frame.caseMode] at acts
  exact acts

section

variable {keyed keyed' referred referred' left : Catalog}

/-- Tables are created in another order. Each is created once, so their places differ. -/
theorem exists_creation_of_perm (perm : fixture.tables.Perm other.tables)
    (frame : other.initial.SameFrame fixture.initial)
    (ran : run (fixture.tables.flatMap fun described => described.2.creation described.1)
      fixture.initial = .ok keyed) :
    (fixture.tables.map fun described => fixture.placeOf described.1 described.2.name).Nodup ∧
      TakesTables fixture.initial keyed ∧
      ∃ keyed', run (other.tables.flatMap fun described => described.2.creation described.1)
        other.initial = .ok keyed' ∧ keyed.SameContents keyed' := by
  have acts := actsAt_tables (.refl fixture.initial)
  have takes : TakesTables fixture.initial fixture.initial := ⟨.refl _, fixture.synonymAt?_initial⟩
  have takes' : TakesTables fixture.initial other.initial := ⟨frame, other.synonymAt?_initial⟩
  have distinct := nodup_of_run_flatMap acts (fun _ _ _ _ => fresh_creation) takes ran
  have left := stays_run_flatMap acts takes ran
  obtain ⟨keyed', ran', left', tables⟩ := exists_run_flatMap_of_perm acts perm distinct takes takes'
    (fun place => (fixture.tableAt?_initial _ _).trans (other.tableAt?_initial _ _).symm) ran
  refine ⟨distinct, left, keyed', ran', left.frame.trans left'.frame.symm, ?_, ?_⟩
  · exact fun key place => tables (key, place)
  · exact fun key place => (left.noSynonym key place).trans (left'.noSynonym key place).symm

/-- Foreign keys and indexes are added in another order of their tables. -/
theorem exists_references_of_perm (perm : fixture.tables.Perm other.tables)
    (distinct :
      (fixture.tables.map fun described => fixture.placeOf described.1 described.2.name).Nodup)
    (created : TakesTables fixture.initial keyed) (same : keyed.SameContents keyed')
    (ran : run (fixture.tables.flatMap fun described => described.2.references described.1) keyed =
      .ok referred) :
    TakesReferences keyed referred ∧
      ∃ referred', run (other.tables.flatMap fun described => described.2.references described.1)
        keyed' = .ok referred' ∧ referred.SameContents referred' := by
  have acts := actsAt_tableReferences created.frame
  have takes : TakesReferences keyed keyed := ⟨.refl _, created.noSynonym, fun _ _ => rfl⟩
  have takes' : TakesReferences keyed keyed' := by
    refine ⟨same.frame.symm, ?_, ?_⟩
    · exact fun key place => (same.synonyms key place).symm.trans (created.noSynonym key place)
    · exact fun key place => congrArg _ (same.tables key place).symm
  have left := stays_run_flatMap acts takes ran
  obtain ⟨referred', ran', left', tables⟩ := exists_run_flatMap_of_perm acts perm distinct takes
    takes' (fun place => same.tables place.1 place.2) ran
  refine ⟨left, referred', ran', left.frame.trans left'.frame.symm, ?_, ?_⟩
  · exact fun key place => tables (key, place)
  · exact fun key place => (left.noSynonym key place).trans (left'.noSynonym key place).symm

/-- Synonyms are created in another order, when all tables are there. -/
theorem exists_synonyms_of_perm (perm : fixture.synonyms.Perm other.synonyms)
    (frame : referred.SameFrame fixture.initial) (same : referred.SameContents referred')
    (ran : run (fixture.synonyms.flatMap fun described =>
      [.ok (.createSynonym described.1 described.2)]) referred = .ok left) :
    ∃ left', run (other.synonyms.flatMap fun described =>
      [.ok (.createSynonym described.1 described.2)]) referred' = .ok left' ∧
        left.SameContents left' := by
  have acts := actsAt_synonyms frame
  have takes : TakesSynonyms referred referred := ⟨.refl _, fun _ _ => rfl⟩
  have takes' : TakesSynonyms referred referred' :=
    ⟨same.frame.symm, fun key place => (same.tables key place).symm⟩
  have distinct := nodup_of_run_flatMap acts (fun _ _ _ _ => fresh_synonym) takes ran
  have built := stays_run_flatMap acts takes ran
  obtain ⟨left', ran', built', synonyms⟩ := exists_run_flatMap_of_perm acts perm distinct takes
    takes' (fun place => same.synonyms place.1 place.2) ran
  refine ⟨left', ran', built.frame.trans built'.frame.symm, ?_, ?_⟩
  · exact fun key place => (built.tables key place).trans (built'.tables key place).symm
  · exact fun key place => synonyms (key, place)

/-- Pass by pass, the other document succeeds too and leaves the same. -/
theorem exists_build_of_sameParts (same : fixture.SameParts other)
    (apart : fixture.SeparatesSchemas) (built : fixture.build = .ok catalog) :
    ∃ catalog', other.build = .ok catalog' ∧ catalog.inNameOrder = catalog'.inNameOrder := by
  have wellNamed := (reached_of_build built).wellNamed
  rw [build, script_eq] at built ⊢
  obtain ⟨referred, ran, ranSynonyms⟩ := run_append_eq_ok_iff.mp built
  obtain ⟨keyed, ranTables, ranReferences⟩ := run_append_eq_ok_iff.mp ran
  obtain ⟨distinct, created, keyed', ranTables', alike⟩ :=
    exists_creation_of_perm same.tables (sameFrame_initial same apart).symm ranTables
  obtain ⟨added, referred', ranReferences', alike⟩ :=
    exists_references_of_perm same.tables distinct created alike ranReferences
  obtain ⟨left, ranSynonyms', alike⟩ :=
    exists_synonyms_of_perm same.synonyms (added.frame.trans created.frame) alike ranSynonyms
  refine ⟨left, ?_, alike.inNameOrder_eq wellNamed⟩
  exact run_append_eq_ok_iff.mpr
    ⟨referred', run_append_eq_ok_iff.mpr ⟨keyed', ranTables', ranReferences'⟩, ranSynonyms'⟩

end

end Fixture

/-- The same description of a schema, perhaps with its tables and synonyms in another order. -/
structure SchemaSpec.Permuted (schema other : SchemaSpec) : Prop where
  name : schema.name = other.name
  tables : schema.tables.Perm other.tables
  synonyms : schema.synonyms.Perm other.synonyms

/-- The same description of a catalog, perhaps with its schemas in another order, and each perhaps
with its tables and synonyms in another order. -/
structure Fixture.Permuted (fixture other : Fixture) : Prop where
  name : fixture.name = other.name
  caseMode : fixture.caseMode = other.caseMode
  collation : fixture.collation = other.collation
  schemas : ∃ schemas, List.Forall₂ SchemaSpec.Permuted fixture.schemas schemas ∧
    schemas.Perm other.schemas

theorem perm_flatMap_of_forall₂ {α β γ : Type} {relation : α → β → Prop} {f : α → List γ}
    {g : β → List γ} (agree : ∀ a b, relation a b → (f a).Perm (g b)) {l : List α} {l' : List β}
    (related : List.Forall₂ relation l l') : (l.flatMap f).Perm (l'.flatMap g) := by
  induction related with
  | nil => exact .refl _
  | cons here _ ih =>
    rw [List.flatMap_cons, List.flatMap_cons]
    exact (agree _ _ here).append ih

namespace Fixture

variable {fixture other : Fixture}

theorem Permuted.sameParts (permuted : fixture.Permuted other) : fixture.SameParts other := by
  obtain ⟨schemas, related, perm⟩ := permuted.schemas
  refine ⟨permuted.name, permuted.caseMode, permuted.collation, ?_, ?_, ?_⟩
  · rw [schemaNames, schemaNames, List.map_eq_flatMap, List.map_eq_flatMap]
    refine (perm_flatMap_of_forall₂ ?_ related).trans (perm.flatMap_right _)
    intro schema schema' same
    rw [same.name]
  · refine (perm_flatMap_of_forall₂ ?_ related).trans (perm.flatMap_right _)
    intro schema schema' same
    rw [same.name]
    exact same.tables.map _
  · refine (perm_flatMap_of_forall₂ ?_ related).trans (perm.flatMap_right _)
    intro schema schema' same
    rw [same.name]
    exact same.synonyms.map _

/-- Where the names of schemas are the same identifier only if they are equal, a document builds in
every order or in none, and what it builds is the same in the order of names. -/
theorem build_of_permuted (permuted : fixture.Permuted other)
    (apart : fixture.SeparatesSchemas) :
    ((∃ catalog, fixture.build = .ok catalog) ↔ ∃ catalog, other.build = .ok catalog) ∧
      ∀ catalog catalog', fixture.build = .ok catalog → other.build = .ok catalog' →
        catalog.inNameOrder = catalog'.inNameOrder := by
  have same := permuted.sameParts
  refine ⟨⟨?_, ?_⟩, ?_⟩
  · intro ⟨catalog, built⟩
    obtain ⟨catalog', built', -⟩ := exists_build_of_sameParts same apart built
    exact ⟨catalog', built'⟩
  · intro ⟨catalog, built⟩
    obtain ⟨catalog', built', -⟩ :=
      exists_build_of_sameParts same.symm (apart.of_sameParts same) built
    exact ⟨catalog', built'⟩
  · intro catalog catalog' built built'
    obtain ⟨left, builtLeft, inOrder⟩ := exists_build_of_sameParts same apart built
    rw [built', Except.ok.injEq] at builtLeft
    rw [inOrder, builtLeft]

/-- References to another schema that point forward in one order of the document and backward in the
other. -/
theorem build_of_permuted_references :
    let columns : List ColumnSpec := [{ name := "A", type := "INTEGER" }]
    let parent : TableSpec := { name := "P", columns, primaryKey := ["A"] }
    let child : TableSpec := {
      name := "C", columns, foreignKeys := [{
        name := "F", columns := ["a"], parentSchema := some "s", parentTable := "p",
        parentColumns := ["a"] }] }
    let plain : TableSpec := { name := "B", columns }
    let fixture : Fixture := {
      name := "D", caseMode := .insensitive, schemas := [
        { name := "PUBLIC", tables := [child, plain],
          synonyms := [⟨"X", "S", "P"⟩, ⟨"Y", "PUBLIC", "C"⟩] },
        { name := "S", tables := [parent] }] }
    let other : Fixture := { fixture with
      schemas := [
        { name := "S", tables := [parent] },
        { name := "PUBLIC", tables := [plain, child],
          synonyms := [⟨"Y", "PUBLIC", "C"⟩, ⟨"X", "S", "P"⟩] }] }
    ∃ catalog catalog', fixture.build = .ok catalog ∧ other.build = .ok catalog' ∧
      catalog ≠ catalog' ∧ catalog.inNameOrder = catalog'.inNameOrder := by
  intro columns parent child plain fixture other
  have permuted : fixture.Permuted other := by
    refine ⟨rfl, rfl, rfl, other.schemas.reverse, ?_, List.reverse_perm _⟩
    refine .cons ⟨rfl, ?_, ?_⟩ (.cons ⟨rfl, ?_, ?_⟩ .nil)
    · exact .swap _ _ _
    · exact .swap _ _ _
    · exact .refl _
    · exact .refl _
  have apart : fixture.SeparatesSchemas := by
    unfold SeparatesSchemas
    decide +kernel
  obtain ⟨builds, inOrder⟩ := build_of_permuted permuted apart
  have succeeds : fixture.build.toOption.isSome = true := by decide +kernel
  have differ : fixture.build.toOption ≠ other.build.toOption := by decide +kernel
  cases built : fixture.build with
  | error error =>
    rw [built] at succeeds
    cases succeeds
  | ok catalog =>
    obtain ⟨catalog', built'⟩ := builds.mp ⟨catalog, built⟩
    refine ⟨catalog, catalog', rfl, built', ?_, inOrder catalog catalog' built built'⟩
    rintro rfl
    rw [built, built'] at differ
    exact differ rfl

end Fixture

end CatalogViews
