import CatalogViews.Proofs.DocumentOrder
import CatalogViews.Proofs.TableDescriptions

/-!
# What a document builds

A document that builds gives exactly the catalog that it describes (`Fixture.Describes`): the main
schema and one schema for each name that is another identifier, in each schema the tables and the
synonyms that the document lists under names of the schema, and every table as it is described.

The script looks every object up by name in each of its passes. Within a pass each part has a place
of its own, and no pass disturbs what an earlier one has left: the foreign keys and indexes leave
the tables as they were otherwise, and the synonyms leave them altogether. So the catalog can be
told place by place (`Fixture.Fills`), and since the places of a schema are the keys of its tables,
nothing is lost, duplicated or overwritten.
-/

namespace CatalogViews

namespace Fixture

variable {fixture : Fixture} {catalog keyed referred : Catalog}

/-- What is kept at the places of the described tables and synonyms, and that nothing is kept
elsewhere. -/
structure Fills (fixture : Fixture) (catalog : Catalog) : Prop where
  frame : catalog.SameFrame fixture.initial
  distinct :
    (fixture.tables.map fun described => fixture.placeOf described.1 described.2.name).Nodup
  describes : ∀ described ∈ fixture.tables, ∃ table,
    tableUnder catalog (fixture.placeOf described.1 described.2.name) = some table ∧
      described.2.Describes catalog described.1 table
  noOther : ∀ place,
    place ∉ (fixture.tables.map fun described => fixture.placeOf described.1 described.2.name) →
      tableUnder catalog place = none
  distinctSynonyms :
    (fixture.synonyms.map fun described => fixture.placeOf described.1 described.2.name).Nodup
  synonyms : ∀ described ∈ fixture.synonyms,
    synonymUnder catalog (fixture.placeOf described.1 described.2.name) = some described.2
  noOtherSynonym : ∀ place,
    place ∉ (fixture.synonyms.map fun described => fixture.placeOf described.1 described.2.name) →
      synonymUnder catalog place = none

theorem TakesSynonyms.resolveForeignKey (h : TakesSynonyms keyed catalog) :
    catalog.resolveForeignKey = keyed.resolveForeignKey := by
  have tables (key place : String) := congrArg (Option.map Table.withoutReferences)
    (h.tables key place)
  funext schema fk
  exact Catalog.resolveForeignKey_congr h.frame.caseMode (h.frame.sameParents tables) schema fk

/-- The tables with their keys are created, each where nothing was. -/
theorem describesKeys_of_run
    (ran : run (fixture.tables.flatMap fun described => described.2.creation described.1)
      fixture.initial = .ok keyed) :
    (fixture.tables.map fun described => fixture.placeOf described.1 described.2.name).Nodup ∧
      TakesTables fixture.initial keyed ∧
      (∀ described ∈ fixture.tables, ∃ table,
        tableUnder keyed (fixture.placeOf described.1 described.2.name) = some table ∧
          described.2.DescribesKeys keyed.caseMode table ∧ table.foreignKeys = [] ∧
          table.indexes = []) ∧
      ∀ place,
        place ∉ (fixture.tables.map fun described => fixture.placeOf described.1 described.2.name) →
          tableUnder keyed place = none := by
  have acts := actsAt_tables (.refl fixture.initial)
  have takes : TakesTables fixture.initial fixture.initial := ⟨.refl _, fixture.synonymAt?_initial⟩
  have distinct := nodup_of_run_flatMap acts (fun _ _ _ _ => fresh_creation) takes ran
  have left := stays_run_flatMap acts takes ran
  refine ⟨distinct, left, ?_, ?_⟩
  · intro described member
    have after := changes_run_flatMap acts distinct takes ran described member
    rw [tableUnder, fixture.tableAt?_initial] at after
    rw [left.frame.caseMode]
    exact TableSpec.exists_describesKeys_of_creation after
  · intro place elsewhere
    rw [keeps_run_flatMap acts takes ran place elsewhere]
    exact fixture.tableAt?_initial _ _

/-- Pass by pass, a script that succeeds leaves the described objects at their places. -/
theorem fills_of_build (built : fixture.build = .ok catalog) : fixture.Fills catalog := by
  rw [build, script_eq] at built
  obtain ⟨referred, ran, ranSynonyms⟩ := run_append_eq_ok_iff.mp built
  obtain ⟨keyed, ranTables, ranReferences⟩ := run_append_eq_ok_iff.mp ran
  obtain ⟨distinct, created, describesKeys, noOther⟩ := describesKeys_of_run ranTables
  have actsReferences := actsAt_tableReferences created.frame
  have takes : TakesReferences keyed keyed := ⟨.refl _, created.noSynonym, fun _ _ => rfl⟩
  have added := stays_run_flatMap actsReferences takes ranReferences
  have frame := added.frame.trans created.frame
  have actsSynonyms := actsAt_synonyms frame
  have takes' : TakesSynonyms referred referred := ⟨.refl _, fun _ _ => rfl⟩
  have distinctSynonyms :=
    nodup_of_run_flatMap actsSynonyms (fun _ _ _ _ => fresh_synonym) takes' ranSynonyms
  have left := stays_run_flatMap actsSynonyms takes' ranSynonyms
  refine ⟨left.frame.trans frame, distinct, ?_, ?_, distinctSynonyms, ?_, ?_⟩
  · intro described member
    obtain ⟨old, kept, describes, noForeignKeys, noIndexes⟩ := describesKeys described member
    have after := changes_run_flatMap actsReferences distinct takes ranReferences described member
    rw [kept] at after
    obtain ⟨table, kept', describes⟩ := TableSpec.exists_describes_of_references
      (left.frame.trans added.frame).caseMode
      (left.resolveForeignKey.trans added.resolveForeignKey) describes noForeignKeys noIndexes after
    exact ⟨table, (left.tables _ _).trans kept', describes⟩
  · intro place elsewhere
    rw [tableUnder, left.tables]
    exact (keeps_run_flatMap actsReferences takes ranReferences place elsewhere).trans
      (noOther place elsewhere)
  · intro described member
    have after := changes_run_flatMap actsSynonyms distinctSynonyms takes' ranSynonyms described
      member
    unfold synonymEffect? at after
    split at after
    · exact (Option.some.inj after).symm
    · cases after
  · intro place elsewhere
    rw [keeps_run_flatMap actsSynonyms takes' ranSynonyms place elsewhere]
    exact (added.noSynonym _ _)

end Fixture

/-- The first of its identifier comes first, or no name of this identifier comes before it. -/
theorem CaseMode.spells_self_cons_iff {mode : CaseMode} {name key : String} {names : List String} :
    mode.Spells (name :: names) key key ↔
      key = name ∨ mode.key name ≠ mode.key key ∧ mode.Spells names key key := by
  rw [Spells, Spells, List.find?_cons]
  cases same : mode.same name key with
  | true =>
    have same := same_iff.mp same
    simp [same, eq_comm]
  | false =>
    have different : mode.key name ≠ mode.key key :=
      fun equal => Bool.false_ne_true (same.symm.trans (same_iff.mpr equal))
    have other : key ≠ name := by
      rintro rfl
      exact different rfl
    simp [other, different]

namespace Catalog

variable {catalog : Catalog}

theorem keys_applyTo_createSchema (catalog : Catalog) (name : String) :
    ((Operation.createSchema name).applyTo catalog).schemas.keys =
      if catalog.schema? name = none then catalog.schemas.keys ++ [name]
      else catalog.schemas.keys := by
  by_cases free : catalog.schema? name = none
  · have fresh := find?_schemas_of_schema?_eq_none free
    rw [if_pos free, Operation.applyTo, Operation.perform, createSchema, free, Option.isSome_none,
      if_neg Bool.false_ne_true, Keyed.keys_insertNew fresh]
  · rw [if_neg free, Operation.applyTo, Operation.perform, createSchema,
      if_pos (Option.isSome_iff_ne_none.mpr free)]

/-- Of the names that are one identifier, the first becomes the name of a schema, if there was no
schema of this identifier. -/
theorem mem_keys_after_iff (catalog : Catalog) (names : List String) (key : String) :
    key ∈ (catalog.after (names.map .createSchema)).schemas.keys ↔
      key ∈ catalog.schemas.keys ∨
        (∀ older ∈ catalog.schemas.keys, catalog.caseMode.key older ≠ catalog.caseMode.key key) ∧
          catalog.caseMode.Spells names key key := by
  induction names generalizing catalog with
  | nil => simp [after, CaseMode.Spells]
  | cons name names ih =>
    have mode := (catalog.addsSchemas_createSchema name).caseMode
    rw [List.map_cons]
    change key ∈ (((Operation.createSchema name).applyTo catalog).after _).schemas.keys ↔ _
    rw [ih, mode, keys_applyTo_createSchema, CaseMode.spells_self_cons_iff]
    by_cases free : catalog.schema? name = none
    · simp only [if_pos free, List.mem_append, List.mem_singleton, or_imp, forall_and, forall_eq]
      rw [schema?_eq_none_iff] at free
      by_cases here : key = name
      · subst here
        tauto
      · tauto
    · have taken : (∀ older ∈ catalog.schemas.keys,
          catalog.caseMode.key older ≠ catalog.caseMode.key key) →
          catalog.caseMode.key name ≠ catalog.caseMode.key key := by
        intro others same
        rw [← same, ← schema?_eq_none_iff] at others
        exact free others
      have other (others : ∀ older ∈ catalog.schemas.keys,
          catalog.caseMode.key older ≠ catalog.caseMode.key key) : key ≠ name := by
        rintro rfl
        exact taken others rfl
      rw [if_neg free]
      tauto

end Catalog

/-- What the elements of two lists have in common up to order makes pairs of them. -/
theorem exists_forall₂_of_perm_map {α β γ : Type} {f : α → γ} {g : β → γ} {l : List α}
    {l' : List β} (perm : (l.map f).Perm (l'.map g)) :
    ∃ l'', l''.Perm l ∧ List.Forall₂ (fun a b => f a = g b) l'' l' := by
  have related : Relation.Comp (List.Forall₂ fun a c => f a = c) List.Perm l (l'.map g) := by
    refine ⟨l.map f, ?_, perm⟩
    rw [List.forall₂_map_right_iff, List.forall₂_same]
    exact fun _ _ => rfl
  rw [List.forall₂_comp_perm_eq_perm_comp_forall₂] at related
  obtain ⟨l'', perm', related⟩ := related
  exact ⟨l'', perm'.symm, List.forall₂_map_right_iff.mp related⟩

namespace Keyed

variable {α ι : Type} {m : Keyed α}

/-- A map that is kept under pairs of keys with one first part: its values are what is found at the
places with this first part. -/
theorem perm_map_find?_of_places {items : List ι} {place : ι → String × String} {first : String}
    {belongs : ι → Bool} (distinct : (items.map place).Nodup)
    (here : ∀ item ∈ items, belongs item = true ↔ (place item).1 = first)
    (kept : ∀ item ∈ items, belongs item = true → (m.find? (place item).2).isSome = true)
    (noOther : ∀ key, (first, key) ∉ items.map place → m.find? key = none) :
    ((items.filter belongs).map fun item => m.find? (place item).2).Perm (m.values.map some) := by
  apply perm_map_find?
  · have places : (items.filter belongs).map place =
        ((items.filter belongs).map fun item => (place item).2).map (Prod.mk first) := by
      rw [List.map_map]
      refine List.map_congr_left fun item member => ?_
      obtain ⟨member, belongs⟩ := List.mem_filter.mp member
      rw [Function.comp_apply, ← (here item member).mp belongs]
    have among : ((items.filter belongs).map place).Nodup :=
      (List.filter_sublist.map place).nodup distinct
    rw [places] at among
    exact among.of_map
  · intro key
    constructor
    · intro used
      by_contra elsewhere
      refine (find?_eq_none_iff.mp (noOther key ?_)) used
      intro placed
      obtain ⟨item, member, there⟩ := List.mem_map.mp placed
      refine elsewhere (List.mem_map.mpr ⟨item, List.mem_filter.mpr ⟨member, ?_⟩, ?_⟩)
      · rw [here item member, there]
      · rw [there]
    · intro listed
      obtain ⟨item, member, rfl⟩ := List.mem_map.mp listed
      obtain ⟨member, belongs⟩ := List.mem_filter.mp member
      exact mem_keys_iff.mpr (Option.isSome_iff_exists.mp (kept item member belongs))

end Keyed

namespace Fixture

/-- The described tables that are listed under a name of the schema. -/
def tablesOf (fixture : Fixture) (schema : String) : List (String × TableSpec) :=
  fixture.tables.filter fun listed => fixture.caseMode.same listed.1 schema

/-- The synonyms that are listed under a name of the schema. -/
def synonymsOf (fixture : Fixture) (schema : String) : List Synonym :=
  (fixture.synonyms.filter fun listed => fixture.caseMode.same listed.1 schema).map (·.2)

/-- The catalog is the described one. -/
structure Describes (fixture : Fixture) (catalog : Catalog) : Prop where
  name : catalog.name = fixture.name
  caseMode : catalog.caseMode = fixture.caseMode
  collation : catalog.collation = fixture.collation
  currentSchema : catalog.currentSchema = mainSchemaName
  /-- There is one schema for each identifier among the names, the main schema before the listed
  ones, and it has the first of the names that are this identifier. -/
  schemas : ∀ name, (∃ schema ∈ catalog.schemas.values, schema.name = name) ↔
    fixture.caseMode.Spells (mainSchemaName :: fixture.schemaNames) name name
  distinct : fixture.caseMode.Distinguishes (catalog.schemas.values.map (·.name))
  tables : ∀ schema ∈ catalog.schemas.values, ∃ listed,
    listed.Perm (fixture.tablesOf schema.name) ∧
      List.Forall₂ (fun described table => described.2.Describes catalog described.1 table) listed
        schema.tables.values
  synonyms : ∀ schema ∈ catalog.schemas.values,
    schema.synonyms.values.Perm (fixture.synonymsOf schema.name)

variable {fixture : Fixture} {catalog : Catalog}

theorem mem_keys_initial_iff (fixture : Fixture) (key : String) :
    key ∈ fixture.initial.schemas.keys ↔
      fixture.caseMode.Spells (mainSchemaName :: fixture.schemaNames) key key := by
  have keys := fixture.blank.mem_keys_after_iff fixture.schemaNames key
  have initial : fixture.blank.after (fixture.schemaNames.map .createSchema) = fixture.initial := by
    rw [schemaNames, List.map_map]
    rfl
  have main : fixture.blank.schemas.keys = [mainSchemaName] := Catalog.keys_named fixture.name
  have mode : fixture.blank.caseMode = fixture.caseMode := rfl
  rw [initial, main, mode] at keys
  rw [keys, CaseMode.spells_self_cons_iff]
  simp only [List.mem_singleton, forall_eq]

/-- Of a described object, the first part of its place is the name of its schema. -/
theorem Fills.fst_placeOf_eq_iff (fills : fixture.Fills catalog) (h : catalog.WellNamed)
    {owner : Schema} (listed : owner ∈ catalog.schemas.values) {schema : String}
    (named : schema ∈ fixture.schemaNames) (name : String) :
    fixture.caseMode.same schema owner.name = true ↔
      (fixture.placeOf schema name).1 = owner.name := by
  have mode : catalog.caseMode = fixture.caseMode :=
    fills.frame.caseMode.trans fixture.addsSchemas_initial.caseMode
  obtain ⟨used, same⟩ := Catalog.schemaKey?_eq_some
    (schemaKey?_eq_some_placeOf fills.frame named name)
  have used' : owner.name ∈ catalog.schemas.keys :=
    Keyed.mem_keys_iff.mpr ⟨owner, h.find?_schemas.mpr ⟨listed, rfl⟩⟩
  rw [CaseMode.same_iff, ← mode, ← same]
  constructor
  · exact h.distinct _ used _ used'
  · intro here
    rw [here]

/-- The tables of a schema are those that the document lists under its names. -/
theorem Fills.exists_forall₂_tablesOf (fills : fixture.Fills catalog) (h : catalog.WellNamed)
    {owner : Schema} (listed : owner ∈ catalog.schemas.values) :
    ∃ described, described.Perm (fixture.tablesOf owner.name) ∧
      List.Forall₂ (fun described table => described.2.Describes catalog described.1 table)
        described owner.tables.values := by
  have found : catalog.schemas.find? owner.name = some owner := h.find?_schemas.mpr ⟨listed, rfl⟩
  have under (key : String) : tableUnder catalog (owner.name, key) = owner.tables.find? key := by
    rw [tableUnder, Catalog.tableAt?, found, Option.bind_some]
  have belongs (described : String × TableSpec) (member : described ∈ fixture.tables) :=
    fills.fst_placeOf_eq_iff h listed (mem_schemaNames_of_tables member) described.2.name
  have perm := Keyed.perm_map_find?_of_places (m := owner.tables) fills.distinct belongs
    (by
      intro described member same
      obtain ⟨table, kept, -⟩ := fills.describes described member
      rw [← under, ← (belongs described member).mp same]
      exact Option.isSome_iff_exists.mpr ⟨table, kept⟩)
    (by
      intro key elsewhere
      rw [← under]
      exact fills.noOther _ elsewhere)
  obtain ⟨described, perm, related⟩ := exists_forall₂_of_perm_map perm
  refine ⟨described, perm, ?_⟩
  have members : ∀ listed ∈ described, listed ∈ fixture.tablesOf owner.name :=
    fun listed member => perm.mem_iff.mp member
  refine ((List.forall₂_and_left _ _).mpr ⟨members, related⟩).imp ?_
  rintro listed table ⟨member, here⟩
  obtain ⟨member, same⟩ := List.mem_filter.mp member
  obtain ⟨stored, kept, describes⟩ := fills.describes listed member
  have place : fixture.placeOf listed.1 listed.2.name =
      (owner.name, (fixture.placeOf listed.1 listed.2.name).2) :=
    Prod.ext ((belongs listed member).mp same) rfl
  rw [place, under, here] at kept
  cases kept
  exact describes

/-- The synonyms of a schema are those that the document lists under its names. -/
theorem Fills.perm_synonymsOf (fills : fixture.Fills catalog) (h : catalog.WellNamed)
    {owner : Schema} (listed : owner ∈ catalog.schemas.values) :
    owner.synonyms.values.Perm (fixture.synonymsOf owner.name) := by
  have found : catalog.schemas.find? owner.name = some owner := h.find?_schemas.mpr ⟨listed, rfl⟩
  have under (key : String) :
      synonymUnder catalog (owner.name, key) = owner.synonyms.find? key := by
    rw [synonymUnder, Catalog.synonymAt?, found, Option.bind_some]
  have belongs (described : String × Synonym) (member : described ∈ fixture.synonyms) :=
    fills.fst_placeOf_eq_iff h listed (mem_schemaNames_of_synonyms member) described.2.name
  have kept (described : String × Synonym) (member : described ∈ fixture.synonyms)
      (same : fixture.caseMode.same described.1 owner.name = true) :
      owner.synonyms.find? (fixture.placeOf described.1 described.2.name).2 =
        some described.2 := by
    rw [← under, ← (belongs described member).mp same]
    exact fills.synonyms described member
  have perm := Keyed.perm_map_find?_of_places (m := owner.synonyms) fills.distinctSynonyms belongs
    (by
      intro described member same
      rw [kept described member same]
      rfl)
    (by
      intro key elsewhere
      rw [← under]
      exact fills.noOtherSynonym _ elsewhere)
  have values : (fixture.synonyms.filter fun listed =>
      fixture.caseMode.same listed.1 owner.name).map (fun described =>
        owner.synonyms.find? (fixture.placeOf described.1 described.2.name).2) =
      (fixture.synonymsOf owner.name).map some := by
    rw [synonymsOf, List.map_map]
    refine List.map_congr_left fun described member => ?_
    obtain ⟨member, same⟩ := List.mem_filter.mp member
    exact kept described member same
  rw [values] at perm
  exact ((List.map_perm_map_iff fun _ _ => Option.some.inj).mp perm).symm

/-- A document that builds gives the catalog that it describes. -/
theorem describes_of_build (built : fixture.build = .ok catalog) : fixture.Describes catalog := by
  have h := (reached_of_build built).wellNamed
  have fills := fills_of_build built
  have adds := fixture.addsSchemas_initial
  have mode : catalog.caseMode = fixture.caseMode := fills.frame.caseMode.trans adds.caseMode
  refine ⟨fills.frame.name.trans adds.name, mode, fills.frame.collation.trans adds.collation,
    fills.frame.currentSchema.trans adds.currentSchema, ?_, ?_, ?_, ?_⟩
  · intro name
    have same := congrArg Option.isSome (fills.frame.names name)
    rw [Option.isSome_map, Option.isSome_map] at same
    simp only [← h.find?_schemas]
    rw [← mem_keys_initial_iff, Keyed.mem_keys_iff, ← Option.isSome_iff_exists,
      ← Option.isSome_iff_exists, same]
  · rw [← mode]
    exact h.schemas_distinct
  · exact fun owner listed => fills.exists_forall₂_tablesOf h listed
  · exact fun owner listed => fills.perm_synonymsOf h listed

/-- One schema is listed twice under two spellings, and a foreign key and an index write the columns
in other letter case than the table. Neither table is a base table, and neither action is the one
for a text that is absent. -/
theorem describes_of_repeated_schema :
    let columns : List ColumnSpec := [
      { name := "Id", type := "integer", autoIncrement := true },
      { name := "Note", type := "varchar(10)", generated := some "1", default := some "2" }]
    let parent : TableSpec := {
      name := "P", kind := some " local temporary", columns, primaryKey := ["ID"],
      uniqueKeys := [⟨"U", ["NOTE", "id"]⟩] }
    let child : TableSpec := {
      name := "C", kind := some "View", columns, foreignKeys := [{
        name := "F", columns := ["id"], parentSchema := some "s", parentTable := "p",
        parentColumns := ["id"], onDelete := some "cascade", onUpdate := some "Set Null " }],
      indexes := [{ name := "I", columns := ["NOTE"], descending := ["NOTE"] }] }
    let fixture : Fixture := {
      name := "D", caseMode := .insensitive, schemas := [
        { name := "S", tables := [child] }, { name := "PUBLIC", synonyms := [⟨"Y", "s", "c"⟩] },
        { name := "s", tables := [parent] }] }
    let tables (catalog : Catalog) := catalog.schemas.values.flatMap (·.tables.values)
    ∃ catalog, fixture.build = .ok catalog ∧
      (catalog.schemas.values.map fun schema => (schema.name, schema.tables.values.map (·.name))) =
        [("PUBLIC", []), ("S", ["C", "P"])] ∧
      (tables catalog).map (·.kind) = [.view, .localTemporary] ∧
      ((tables catalog).flatMap (·.foreignKeys)).map (fun fk => (fk.onDelete, fk.onUpdate)) =
        [(.cascade, .setNull)] ∧
      fixture.Describes catalog := by
  intro columns parent child fixture tables
  have made : (fixture.build.toOption.map fun catalog =>
      ((catalog.schemas.values.map fun schema => (schema.name, schema.tables.values.map (·.name))),
        (tables catalog).map (·.kind),
        ((tables catalog).flatMap (·.foreignKeys)).map fun fk => (fk.onDelete, fk.onUpdate))) =
      some ([("PUBLIC", []), ("S", ["C", "P"])], [.view, .localTemporary],
        [(.cascade, .setNull)]) := by
    decide +kernel
  obtain ⟨catalog, built, made⟩ := exists_eq_ok_of_map_toOption made
  obtain ⟨schemas, made⟩ := Prod.mk.inj made
  obtain ⟨kinds, actions⟩ := Prod.mk.inj made
  exact ⟨catalog, built, schemas, kinds, actions, describes_of_build built⟩

end Fixture

end CatalogViews
