import CatalogViews.Proofs.MainSchema
import CatalogViews.Proofs.Removal

/-!
# Tables under their listed names

The tables of the current schema are listed under their declared names, and any text can be such a
name. A name without a point is looked up in the current schema, so it finds the listed table, and a
drop by the name removes this table and nothing else. A name with a point is read as a name of a
schema and a name in it, although the table is not kept under that pair: the lookup and the drop
never come to the listed table (`Catalog.MeansListed`).

The lookup form of a name is what the two readings are compared by. The lookup form of the whole is
that of the part after a point with more in front of it, so this part is another identifier.
-/

namespace CatalogViews

theorem Catalog.qualify_of_plain (catalog : Catalog) {name : String} (plain : '.' ∉ name.toList) :
    catalog.qualify name = (catalog.currentSchema, name) := by
  rw [Catalog.qualify, Text.cutText?, Text.cut?_eq_none plain]
  rfl

theorem exists_qualified_of_mem {name : String} (pointed : '.' ∈ name.toList) :
    ∃ schema table, name = schema ++ "." ++ table ∧ '.' ∉ schema.toList := by
  obtain ⟨before, after, split, free⟩ := List.eq_append_cons_of_mem pointed
  refine ⟨String.ofList before, String.ofList after, ?_, ?_⟩
  · rw [← String.toList_inj, split]
    simp
  · rw [String.toList_ofList]
    exact free

/-- The part of a name after a point is another identifier than the name. -/
theorem CaseMode.key_ne_key_append (mode : CaseMode) (schema table : String) :
    mode.key table ≠ mode.key (schema ++ "." ++ table) := by
  intro same
  have lengths := congrArg (·.toList.length) same
  cases mode with
  | sensitive =>
    simp only [key, String.toList_append, List.length_append] at lengths
    simp at lengths
  | insensitive =>
    have separator : (Text.upperChars ".".toList).length = 1 := by decide
    simp only [key, Text.toList_upper, String.toList_append, Text.upperChars, List.flatMap_append,
      List.length_append] at lengths separator
    omega

namespace Catalog

/-- The frame is the same, and so is every object but the table under one pair of keys, which is
gone. -/
structure Removes (catalog catalog' : Catalog) (schema key : String) : Prop where
  frame : catalog'.SameFrame catalog
  synonyms : ∀ other place, catalog'.synonymAt? other place = catalog.synonymAt? other place
  tables : ∀ other place, catalog'.tableAt? other place =
    if other = schema ∧ place = key then none else catalog.tableAt? other place

variable {catalog catalog' : Catalog} {schema key name : String} {table : Table}

theorem exists_removes_of_dropTable {written place : String}
    (qualified : catalog.qualify name = (written, place))
    (resolved : catalog.schemaKey? written = some schema)
    (kept : catalog.tableAt? schema (catalog.caseMode.key place) = some table) :
    ∃ catalog', dropTable name catalog = .ok () catalog' ∧
      catalog.Removes catalog' schema (catalog.caseMode.key place) := by
  obtain ⟨owner, found, kept⟩ := tableAt?_eq_some_iff.mp kept
  have dropped : Schema.dropTable catalog.caseMode place owner = .ok table { owner with
      tables := owner.tables.erase (catalog.caseMode.key place) } := by
    rw [Schema.dropTable, Schema.table?, kept]
  have ran : dropTable name catalog = .ok () { catalog with
      schemas := catalog.schemas.replace schema { owner with
        tables := owner.tables.erase (catalog.caseMode.key place) } } := by
    simp only [dropTable, qualified]
    exact onSchema_eq_ok_iff.mpr ⟨schema, owner, _, resolved, found,
      Edit.discard_eq_ok_iff.mpr ⟨table, dropped⟩, rfl⟩
  refine ⟨_, ran, sameFrame_replace found rfl, ?_, ?_⟩
  · intro other place
    exact bind_find?_replace_of_eq found Schema.synonyms rfl
  · intro other place
    exact tableAt?_replace found Keyed.find?_erase

/-- What the name under which a table is listed means. -/
structure MeansListed (catalog : Catalog) (owner : Schema) (table : Table) : Prop where
  /-- The table is that of the current schema with this name, and no other one has the name. -/
  current : catalog.schemas.find? catalog.currentSchema = some owner
  owned : table ∈ owner.tables.values
  unique : ∀ other ∈ owner.tables.values,
    catalog.sameIdentifier other.name table.name = true → other = table
  kept : catalog.tableAt? catalog.currentSchema (catalog.caseMode.key table.name) = some table
  found : '.' ∉ table.name.toList → catalog.table? table.name = some table
  dropped : '.' ∉ table.name.toList → ∃ catalog', dropTable table.name catalog = .ok () catalog' ∧
    catalog.Removes catalog' catalog.currentSchema (catalog.caseMode.key table.name)
  /-- A name with a point is read as the name of a schema and a name in this schema, which is not
  that of the listed table. -/
  qualified : '.' ∈ table.name.toList → ∃ schema name,
    table.name = schema ++ "." ++ name ∧ '.' ∉ schema.toList ∧
      catalog.table? table.name = catalog.tableIn? schema name ∧
      (∀ other, catalog.table? table.name = some other →
        catalog.sameIdentifier other.name table.name = false) ∧
      ∀ catalog', dropTable table.name catalog = .ok () catalog' →
        catalog'.tableAt? catalog.currentSchema (catalog.caseMode.key table.name) = some table
  /-- The schema itself looks under the uppercase form of the name. -/
  hasTable : catalog.caseMode.key table.name = Text.upper table.name →
    owner.hasTable table.name = true

theorem Anchored.schemaKey?_current (h : catalog.Anchored) :
    catalog.schemaKey? catalog.currentSchema = some catalog.currentSchema := by
  rw [schemaKey?, if_pos (Keyed.contains_iff.mpr h.current)]

/-- The table that is found under a name has it. -/
theorem WellNamed.sameIdentifier_of_tableIn? (h : catalog.WellNamed)
    (found : catalog.tableIn? schema name = some table) :
    catalog.caseMode.key table.name = catalog.caseMode.key name := by
  obtain ⟨owner, named, kept⟩ := Option.bind_eq_some_iff.mp found
  have listed := (h.schema?_eq_some_iff.mp named).1
  exact ((h.schema_wellNamed listed).tables _ _ kept).symm

theorem WellNamed.meansListed (h : catalog.WellNamed) (anchored : catalog.Anchored)
    {owner : Schema} (here : catalog.schemas.find? catalog.currentSchema = some owner)
    (owned : table ∈ owner.tables.values) : catalog.MeansListed owner table := by
  have resolved := anchored.schemaKey?_current
  have names := (h.schemas _ _ here).tables
  have kept : owner.tables.find? (catalog.caseMode.key table.name) = some table :=
    (Keyed.find?_eq_some_iff_mem_values names).mpr ⟨owned, rfl⟩
  have place : catalog.tableAt? catalog.currentSchema (catalog.caseMode.key table.name) =
      some table := tableAt?_eq_some_iff.mpr ⟨owner, here, kept⟩
  constructor
  · exact here
  · exact owned
  · intro other owned' same
    have kept' := (Keyed.find?_eq_some_iff_mem_values names).mpr ⟨owned', rfl⟩
    rw [CaseMode.same_iff.mp same, kept] at kept'
    exact (Option.some.inj kept').symm
  · exact place
  · intro plain
    rw [table?, catalog.qualify_of_plain plain, tableIn?, schema?, resolved, Option.bind_some, here]
    exact kept
  · intro plain
    exact exists_removes_of_dropTable (catalog.qualify_of_plain plain) resolved place
  · intro pointed
    obtain ⟨schema, name, split, free⟩ := exists_qualified_of_mem pointed
    have qualified := catalog.qualify_append name free
    rw [← split] at qualified
    have different : catalog.caseMode.key name ≠ catalog.caseMode.key table.name := by
      rw [split]
      exact catalog.caseMode.key_ne_key_append schema name
    have read : catalog.table? table.name = catalog.tableIn? schema name := by
      rw [table?, qualified]
    refine ⟨schema, name, split, free, read, ?_, ?_⟩
    · intro other found
      rw [read] at found
      rw [sameIdentifier, CaseMode.same, beq_eq_false_iff_ne, h.sameIdentifier_of_tableIn? found]
      exact different
    · intro catalog' ran
      obtain ⟨old, updates⟩ := dropTable_eq_ok ran
      rw [qualified] at updates
      rcases updates.at catalog.currentSchema (catalog.caseMode.key table.name) with
        same | ⟨-, same, -, -⟩
      · exact same.trans place
      · exact absurd same different
  · intro form
    rw [Schema.hasTable, Schema.table?, CaseMode.key, ← form, kept]
    rfl

/-- Every listed name is that of one table of the current schema. -/
theorem Reached.meansListed_of_listed (reached : catalog.Reached fun _ _ => True)
    (listed : name ∈ catalog.listTables) :
    ∃ owner table, table.name = name ∧ catalog.MeansListed owner table := by
  unfold listTables at listed
  split at listed
  · rename_i owner here
    obtain ⟨table, owned, rfl⟩ := List.mem_map.mp listed
    exact ⟨owner, table, rfl, reached.wellNamed.meansListed reached.anchored here owned⟩
  · cases listed

/-- Where case matters, two tables of a schema that is made the current one have names that differ
in case only. The schema itself finds the one with the uppercase name. -/
theorem meansListed_of_current_schema :
    let table (name : String) : Table := { name, columns := [{ name := "A", type := .integer }] }
    let catalog := (started "C" .sensitive).after
      [.createSchema "S", .setCurrentSchema "S", .createTable (table "T"), .createTable (table "t")]
    catalog.listTables = ["T", "t"] ∧
      (∃ owner found, found.name = "t" ∧ catalog.MeansListed owner found) ∧
      ∃ owner found, found.name = "T" ∧ catalog.MeansListed owner found ∧
        owner.hasTable "T" = true := by
  intro table catalog
  have reached : catalog.Reached fun _ _ => True := by
    refine (Reached.start "C" .sensitive).after _ ?_
    simp [Operation.keepsCaseMode]
  have listed : catalog.listTables = ["T", "t"] := by decide +kernel
  have upper : "T" ∈ catalog.listTables := by
    rw [listed]
    exact List.mem_cons_self
  have lower : "t" ∈ catalog.listTables := by
    rw [listed]
    exact List.mem_cons_of_mem _ List.mem_cons_self
  obtain ⟨owner, found, named, means⟩ := reached.meansListed_of_listed upper
  have form : catalog.caseMode.key found.name = Text.upper found.name := by
    rw [named]
    decide +kernel
  exact ⟨listed, reached.meansListed_of_listed lower, owner, found, named, means,
    named ▸ means.hasTable form⟩

/-- A table whose name has a point is listed and not found. Where the name means a table of another
schema, that table is found, and dropped, in its place. Where case matters, a table is found under a
name in lowercase, but not by its schema itself. -/
theorem pointed_name_not_found :
    let table (name : String) : Table := { name, columns := [{ name := "A", type := .integer }] }
    let catalog := (started "C" .insensitive).after [.createTable (table "A.B")]
    let qualified := (started "C" .insensitive).after
      [.createTable (table "A.B"), .createSchema "A", .createTableIn "A" (table "B")]
    let left := (Operation.dropTable "A.B").applyTo qualified
    let sensitive := (started "C" .sensitive).after [.createTable (table "t")]
    (catalog.Reached fun _ _ => True) ∧ "A.B" ∈ catalog.listTables ∧ catalog.table? "A.B" = none ∧
      (qualified.Reached fun _ _ => True) ∧ "A.B" ∈ qualified.listTables ∧
      qualified.table? "A.B" = some (table "B") ∧ "A.B" ∈ left.listTables ∧
      left.tableIn? "A" "B" = none ∧
      (sensitive.Reached fun _ _ => True) ∧ "t" ∈ sensitive.listTables ∧
      sensitive.table? "t" = some (table "t") ∧
      ∃ owner ∈ sensitive.schemas.find? sensitive.currentSchema, owner.hasTable "t" = false := by
  intro table catalog qualified left sensitive
  have reached (mode : CaseMode) (history : List Operation)
      (keep : ∀ operation ∈ history, operation.keepsCaseMode = true) :
      ((started "C" mode).after history).Reached fun _ _ => True :=
    (Reached.start "C" mode).after history fun operation member =>
      ⟨keep operation member, fun _ _ => trivial⟩
  refine ⟨reached _ _ ?_, ?_, ?_, reached _ _ ?_, ?_, ?_, ?_, ?_, reached _ _ ?_, ?_, ?_, ?_⟩
  · simp [Operation.keepsCaseMode]
  · decide +kernel
  · decide +kernel
  · simp [Operation.keepsCaseMode]
  · decide +kernel
  · decide +kernel
  · decide +kernel
  · decide +kernel
  · simp [Operation.keepsCaseMode]
  all_goals decide +kernel

end Catalog

end CatalogViews
