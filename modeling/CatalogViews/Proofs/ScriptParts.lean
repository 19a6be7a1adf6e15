import CatalogViews.Proofs.CatalogContents
import CatalogViews.Proofs.ScriptRuns
import CatalogViews.Proofs.TableUpdates

/-!
# The parts of the script of a fixture

The script of a fixture has a part that creates each table with its keys, then a part for the
foreign keys and indexes of each table, then one for each synonym. Each part is about one place in
the catalog. What a part of a table does is told by `Fixture.tableAfter?`, which runs the steps on
the table alone; the catalog counts only for its case mode and, where there are foreign keys, for
the tables that they refer to.
-/

namespace CatalogViews

/-- The state that an edit leaves behind when it succeeds. -/
def Edit.result? {σ : Type} (edit : Edit σ Unit) (state : σ) : Option σ :=
  match edit state with
  | .ok _ state' => some state'
  | .error _ _ => none

theorem Edit.result?_eq_some_iff {σ : Type} {edit : Edit σ Unit} {state state' : σ} :
    edit.result? state = some state' ↔ edit state = .ok () state' := by
  rw [Edit.result?]
  cases edit state <;> simp

namespace Operation

/-- The names of the schema and of the table that an operation creates or changes. -/
def subject? : Operation → Option (String × String)
  | createTableIn schema table => some (schema, table.name)
  | operation => operation.namedTable?

/-- What an operation leaves where its subject is kept: a new table where there was none, or an
edited one. Foreign keys are resolved in the given catalog. -/
def tableEffect? (catalog : Catalog) (operation : Operation) (stored : Option Table) :
    Option (Option Table) :=
  match operation.newTable?, stored with
  | some table, none => some (some table)
  | some _, some _ => none
  | none, none => none
  | none, some old => do
    let (_, _, edit) ← operation.tableEdit? catalog
    let new ← edit.result? old
    return some new

theorem isSome_of_tableEffect? {catalog : Catalog} {operation : Operation}
    {stored left : Option Table} (effect : operation.tableEffect? catalog stored = some left) :
    left.isSome = true := by
  unfold tableEffect? at effect
  split at effect
  · cases effect
    rfl
  · cases effect
  · cases effect
  · obtain ⟨target, -, effect⟩ := Option.bind_eq_some_iff.mp effect
    obtain ⟨new, -, effect⟩ := Option.bind_eq_some_iff.mp effect
    cases effect
    rfl

/-- An operation that creates no table edits the one that is there. -/
theorem exists_edits_of_tableEffect? {base : Catalog} {operation : Operation}
    (creates : operation.newTable? = none) {old : Table} {left : Option Table}
    (effect : operation.tableEffect? base (some old) = some left) :
    ∃ schema name new, left = some new ∧ operation.Edits base schema name old new := by
  simp only [tableEffect?, creates] at effect
  obtain ⟨⟨schema, name, edit⟩, edits, effect⟩ := Option.bind_eq_some_iff.mp effect
  obtain ⟨new, edited, made⟩ := Option.bind_eq_some_iff.mp effect
  cases made
  exact ⟨schema, name, new, rfl, edits_of_tableEdit? edits (Edit.result?_eq_some_iff.mp edited)⟩

end Operation

namespace Fixture

/-- What steps about one table leave of it. -/
def tableAfter? (catalog : Catalog) : List ScriptStep → Option Table → Option (Option Table)
  | [], stored => some stored
  | .error _ :: _, _ => none
  | .ok operation :: steps, stored =>
    (operation.tableEffect? catalog stored).bind (tableAfter? catalog steps)

/-- The table under a pair of keys. -/
def tableUnder (catalog : Catalog) (place : String × String) : Option Table :=
  catalog.tableAt? place.1 place.2

/-- The synonym under a pair of keys. -/
def synonymUnder (catalog : Catalog) (place : String × String) : Option Synonym :=
  catalog.synonymAt? place.1 place.2

section

variable {valid : Catalog → Prop} {base catalog catalog' : Catalog} {operation : Operation}
  {schema name key : String}

/-- An operation puts what it leaves in the place of its subject. -/
theorem puts_of_perform (subject : operation.subject? = some (schema, name))
    (resolved : catalog.schemaKey? schema = some key)
    (ran : operation.perform catalog = .ok () catalog') :
    ∃ new, operation.tableEffect? catalog (catalog.tableAt? key (catalog.caseMode.key name)) =
        some (some new) ∧
      catalog.Puts catalog' key (catalog.caseMode.key name) new := by
  cases creates : operation.newTable? with
  | some table =>
    cases operation with
    | createTableIn owner table =>
      cases subject
      cases creates
      obtain ⟨free, puts⟩ := Catalog.puts_of_createTableIn resolved ran
      exact ⟨table, by rw [free]; rfl, puts⟩
    | createTable table => cases subject
    | _ => cases creates
  | none =>
    have named : operation.namedTable? = some (schema, name) := by
      cases operation <;> first | exact subject | cases creates
    obtain ⟨edit, edits⟩ := Operation.exists_tableEdit? named ran
    rw [Operation.perform_eq_onTable edits] at ran
    obtain ⟨key', old, new, resolved', kept, edited, rfl⟩ := Catalog.onTable_eq_ok_iff.mp ran
    obtain rfl : key' = key := Option.some.inj (resolved'.symm.trans resolved)
    refine ⟨new, ?_, Catalog.puts_withTable kept new⟩
    simp [Operation.tableEffect?, creates, kept, edits, Edit.result?_eq_some_iff.mpr edited]

theorem exists_perform (subject : operation.subject? = some (schema, name))
    (resolved : catalog.schemaKey? schema = some key)
    (noSynonym : catalog.synonymAt? key (catalog.caseMode.key name) = none) {left : Option Table}
    (effect : operation.tableEffect? catalog (catalog.tableAt? key (catalog.caseMode.key name)) =
      some left) :
    ∃ catalog', operation.perform catalog = .ok () catalog' := by
  cases creates : operation.newTable? with
  | some table =>
    cases operation with
    | createTableIn owner table =>
      cases subject
      cases creates
      cases free : catalog.tableAt? key (catalog.caseMode.key table.name) with
      | none => exact Catalog.exists_createTableIn resolved free noSynonym
      | some old =>
        rw [free] at effect
        cases effect
    | createTable table => cases subject
    | _ => cases creates
  | none =>
    have named : operation.namedTable? = some (schema, name) := by
      cases operation <;> first | exact subject | cases creates
    cases kept : catalog.tableAt? key (catalog.caseMode.key name) with
    | none => simp [Operation.tableEffect?, creates, kept] at effect
    | some old =>
      simp only [Operation.tableEffect?, creates, kept] at effect
      obtain ⟨⟨schema', name', edit⟩, edits, effect⟩ := Option.bind_eq_some_iff.mp effect
      obtain ⟨new, edited, -⟩ := Option.bind_eq_some_iff.mp effect
      have named' := Operation.namedTable?_of_tableEdit? edits
      rw [named, Option.some_inj, Prod.mk.injEq] at named'
      obtain ⟨rfl, rfl⟩ := named'
      rw [Operation.perform_eq_onTable edits]
      rw [Edit.result?_eq_some_iff] at edited
      exact ⟨_, Catalog.onTable_eq_ok_iff.mpr ⟨key, old, new, resolved, kept, edited, rfl⟩⟩

/-- Catalogs in which an operation is about the place of its subject. They have a frame in common,
there is no synonym yet, and they do not differ for the operation. -/
structure Suits (base catalog : Catalog) (operation : Operation) : Prop where
  frame : catalog.SameFrame base
  noSynonym : ∀ key place, catalog.synonymAt? key place = none
  edit : operation.tableEdit? catalog = operation.tableEdit? base

theorem Suits.tableEffect? (alike : Suits base catalog operation) :
    operation.tableEffect? catalog = operation.tableEffect? base := by
  funext stored
  simp only [Operation.tableEffect?, alike.edit]

theorem Suits.exists_run (alike : Suits base catalog operation)
    (subject : operation.subject? = some (schema, name))
    (resolved : base.schemaKey? schema = some key) {left : Option Table}
    (effect : operation.tableEffect? base (catalog.tableAt? key (base.caseMode.key name)) =
      some left) :
    ∃ catalog', run [.ok operation] catalog = .ok catalog' := by
  rw [← alike.frame.schemaKey?] at resolved
  rw [← alike.tableEffect?, ← alike.frame.caseMode] at effect
  obtain ⟨catalog', ran⟩ := exists_perform subject resolved (alike.noSynonym _ _) effect
  exact ⟨catalog', run_singleton_eq_ok_iff.mpr ran⟩

theorem Suits.puts_of_run (alike : Suits base catalog operation)
    (subject : operation.subject? = some (schema, name))
    (resolved : base.schemaKey? schema = some key)
    (ran : run [.ok operation] catalog = .ok catalog') :
    ∃ new, operation.tableEffect? base (catalog.tableAt? key (base.caseMode.key name)) =
        some (some new) ∧
      catalog.Puts catalog' key (base.caseMode.key name) new := by
  rw [← alike.frame.schemaKey?] at resolved
  rw [← alike.tableEffect?, ← alike.frame.caseMode]
  exact puts_of_perform subject resolved (run_singleton_eq_ok_iff.mp ran)

theorem actsAt_operation (subject : operation.subject? = some (schema, name))
    (resolved : base.schemaKey? schema = some key)
    (suits : ∀ catalog, valid catalog → Suits base catalog operation)
    (stays : ∀ catalog catalog' new, valid catalog →
      operation.tableEffect? base (catalog.tableAt? key (base.caseMode.key name)) =
        some (some new) →
      catalog.Puts catalog' key (base.caseMode.key name) new → valid catalog') :
    ActsAt valid tableUnder (key, base.caseMode.key name) [.ok operation]
      (operation.tableEffect? base) := by
  constructor
  · intro catalog left h effect
    exact (suits catalog h).exists_run subject resolved effect
  · intro catalog catalog' h ran
    obtain ⟨new, effect, puts⟩ := (suits catalog h).puts_of_run subject resolved ran
    exact stays catalog catalog' new h effect puts
  · intro catalog catalog' h ran
    obtain ⟨new, effect, puts⟩ := (suits catalog h).puts_of_run subject resolved ran
    rw [tableUnder, tableUnder, effect, puts.tables, if_pos ⟨rfl, rfl⟩]
  · intro catalog catalog' h ran other different
    obtain ⟨new, effect, puts⟩ := (suits catalog h).puts_of_run subject resolved ran
    rw [tableUnder, tableUnder, puts.tables, if_neg]
    exact fun same => different (Prod.ext same.1 same.2)

theorem actsAt_steps {place : String × String} {steps : List ScriptStep}
    (each : ∀ operation, .ok operation ∈ steps →
      ActsAt valid tableUnder place [.ok operation] (operation.tableEffect? base)) :
    ActsAt valid tableUnder place steps (tableAfter? base steps) := by
  induction steps with
  | nil => exact .nil
  | cons step steps ih =>
    have rest := ih fun later member => each later (List.mem_cons_of_mem _ member)
    cases step with
    | error error => exact .error error
    | ok operation => exact (each operation List.mem_cons_self).append rest

end

end Fixture

namespace TableSpec

variable {spec : TableSpec} {schema : String} {operation : Operation}

theorem name_of_table {table : Table} (described : spec.table = .ok table) :
    table.name = spec.name := by
  obtain ⟨columns, -, rest⟩ := bind_eq_ok_iff.mp described
  obtain ⟨kind, -, made⟩ := bind_eq_ok_iff.mp rest
  cases made
  rfl

theorem mem_creation (member : .ok operation ∈ spec.creation schema) :
    (∃ table, spec.table = .ok table ∧ operation = .createTableIn schema table) ∨
      (∃ key, operation = .setPrimaryKey schema spec.name key) ∨
      ∃ key, operation = .addUniqueKey schema spec.name key := by
  simp only [creation, List.cons_append, List.mem_cons, List.mem_append, List.mem_map,
    Except.ok.injEq] at member
  rcases member with created | ⟨key, -, rfl⟩ | ⟨key, -, rfl⟩
  · cases described : spec.table with
    | error error =>
      rw [described] at created
      cases created
    | ok table =>
      rw [described] at created
      cases created
      exact .inl ⟨table, rfl, rfl⟩
  · exact .inr (.inl ⟨key, rfl⟩)
  · exact .inr (.inr ⟨key, rfl⟩)

theorem mem_references (member : .ok operation ∈ spec.references schema) :
    (∃ fk, operation = .addForeignKey schema spec.name fk) ∨
      ∃ index : IndexSpec, operation = .addIndex schema (index.index spec.name) := by
  simp only [references, List.mem_append, List.mem_map, Except.ok.injEq] at member
  rcases member with ⟨described, -, added⟩ | ⟨index, -, rfl⟩
  · cases given : described.foreignKey with
    | error error =>
      rw [given] at added
      cases added
    | ok fk =>
      rw [given] at added
      cases added
      exact .inl ⟨fk, rfl⟩
  · exact .inr ⟨index, rfl⟩

end TableSpec

namespace Fixture

variable {base catalog catalog' : Catalog} {schema key : String}

/-- A catalog to which tables and their keys are added. -/
structure TakesTables (base catalog : Catalog) : Prop where
  frame : catalog.SameFrame base
  noSynonym : ∀ key place, catalog.synonymAt? key place = none

theorem actsAt_creation (resolved : base.schemaKey? schema = some key) (spec : TableSpec) :
    ActsAt (TakesTables base) tableUnder (key, base.caseMode.key spec.name) (spec.creation schema)
      (tableAfter? base (spec.creation schema)) := by
  apply actsAt_steps
  intro operation member
  have subject : operation.subject? = some (schema, spec.name) := by
    rcases TableSpec.mem_creation member with ⟨table, described, rfl⟩ | ⟨key, rfl⟩ | ⟨key, rfl⟩
    · rw [← TableSpec.name_of_table described]
      rfl
    · rfl
    · rfl
  apply actsAt_operation subject resolved
  · intro catalog h
    refine ⟨h.frame, h.noSynonym, ?_⟩
    rcases TableSpec.mem_creation member with ⟨table, -, rfl⟩ | ⟨key, rfl⟩ | ⟨key, rfl⟩
    · rfl
    · rw [Operation.tableEdit?, Operation.tableEdit?, h.frame.caseMode]
    · rw [Operation.tableEdit?, Operation.tableEdit?, h.frame.caseMode]
  · intro catalog catalog' new h _ puts
    exact ⟨puts.frame.trans h.frame, fun key place =>
      (puts.synonyms key place).trans (h.noSynonym key place)⟩

theorem isSome_of_tableAfter? {steps : List ScriptStep} {table : Table} {left : Option Table}
    (after : tableAfter? base steps (some table) = some left) : left.isSome = true := by
  induction steps generalizing table with
  | nil =>
    cases after
    rfl
  | cons step steps ih =>
    cases step with
    | error error => cases after
    | ok operation =>
      obtain ⟨next, effect, after⟩ := Option.bind_eq_some_iff.mp after
      obtain ⟨table', rfl⟩ :=
        Option.isSome_iff_exists.mp (Operation.isSome_of_tableEffect? effect)
      exact ih after

/-- A table is created where there is none. -/
theorem fresh_creation {spec : TableSpec} {stored left : Option Table}
    (after : tableAfter? base (spec.creation schema) stored = some left) :
    stored = none ∧ left ≠ none := by
  rw [TableSpec.creation, List.cons_append] at after
  cases described : spec.table with
  | error error =>
    rw [described] at after
    cases after
  | ok table =>
    rw [described] at after
    obtain ⟨next, effect, after⟩ := Option.bind_eq_some_iff.mp after
    cases stored with
    | none =>
      cases effect
      exact ⟨rfl, Option.isSome_iff_ne_none.mp (isSome_of_tableAfter? after)⟩
    | some old => cases effect

/-- A catalog to whose tables foreign keys and indexes are added. -/
structure TakesReferences (base catalog : Catalog) : Prop where
  frame : catalog.SameFrame base
  noSynonym : ∀ key place, catalog.synonymAt? key place = none
  tables : ∀ key place, (catalog.tableAt? key place).map Table.withoutReferences =
    (base.tableAt? key place).map Table.withoutReferences

theorem TakesReferences.resolveForeignKey (h : TakesReferences base catalog) :
    catalog.resolveForeignKey = base.resolveForeignKey := by
  funext schema fk
  exact Catalog.resolveForeignKey_congr h.frame.caseMode (h.frame.sameParents h.tables) schema fk

theorem withoutReferences_of_tableEffect? {spec : TableSpec} {operation : Operation}
    (member : .ok operation ∈ spec.references schema) {stored : Option Table} {new : Table}
    (effect : operation.tableEffect? base stored = some (some new)) :
    ∃ old, stored = some old ∧ new.withoutReferences = old.withoutReferences := by
  have creates : operation.newTable? = none := by
    rcases TableSpec.mem_references member with ⟨fk, rfl⟩ | ⟨index, rfl⟩ <;> rfl
  cases stored with
  | none => simp [Operation.tableEffect?, creates] at effect
  | some old =>
    obtain ⟨_, _, _, ⟨⟩, edits⟩ := Operation.exists_edits_of_tableEffect? creates effect
    refine ⟨old, rfl, ?_⟩
    rcases TableSpec.mem_references member with ⟨fk, rfl⟩ | ⟨index, rfl⟩ <;> cases edits <;> rfl

theorem actsAt_references (resolved : base.schemaKey? schema = some key) (spec : TableSpec) :
    ActsAt (TakesReferences base) tableUnder (key, base.caseMode.key spec.name)
      (spec.references schema) (tableAfter? base (spec.references schema)) := by
  apply actsAt_steps
  intro operation member
  have subject : operation.subject? = some (schema, spec.name) := by
    rcases TableSpec.mem_references member with ⟨fk, rfl⟩ | ⟨index, rfl⟩ <;> rfl
  apply actsAt_operation subject resolved
  · intro catalog h
    refine ⟨h.frame, h.noSynonym, ?_⟩
    rcases TableSpec.mem_references member with ⟨fk, rfl⟩ | ⟨index, rfl⟩
    · rw [Operation.tableEdit?, Operation.tableEdit?, h.resolveForeignKey, h.frame.caseMode]
    · rw [Operation.tableEdit?, Operation.tableEdit?, h.frame.caseMode]
  · intro catalog catalog' new h effect puts
    refine ⟨puts.frame.trans h.frame, fun key place =>
      (puts.synonyms key place).trans (h.noSynonym key place), ?_⟩
    obtain ⟨old, kept, same⟩ := withoutReferences_of_tableEffect? member effect
    intro other place
    rw [puts.tables, ← h.tables]
    split
    · rename_i here
      rw [here.1, here.2, kept, Option.map_some, Option.map_some, same]
    · rfl

/-- A catalog to which synonyms are added. -/
structure TakesSynonyms (base catalog : Catalog) : Prop where
  frame : catalog.SameFrame base
  tables : ∀ key place, catalog.tableAt? key place = base.tableAt? key place

/-- What the creation of a synonym leaves at its place: the synonym, if its target exists and the
place is free. -/
def synonymEffect? (catalog : Catalog) (place : String × String) (synonym : Synonym)
    (stored : Option Synonym) : Option (Option Synonym) :=
  if (catalog.tableIn? synonym.targetSchema synonym.targetTable).isSome ∧
      tableUnder catalog place = none ∧ stored = none then
    some (some synonym)
  else none

theorem TakesSynonyms.tableIn? (h : TakesSynonyms base catalog) (schema name : String) :
    catalog.tableIn? schema name = base.tableIn? schema name := by
  have viaKey (catalog : Catalog) : catalog.tableIn? schema name =
      (catalog.schemaKey? schema).bind (catalog.tableAt? · (catalog.caseMode.key name)) :=
    Option.bind_assoc _ _ _
  rw [viaKey, viaKey, h.frame.schemaKey?, h.frame.caseMode]
  simp only [h.tables]

theorem TakesSynonyms.exists_run (h : TakesSynonyms base catalog)
    (resolved : base.schemaKey? schema = some key) {synonym : Synonym} {left : Option Synonym}
    (effect : synonymEffect? base (key, base.caseMode.key synonym.name) synonym
      (synonymUnder catalog (key, base.caseMode.key synonym.name)) = some left) :
    ∃ catalog', run [.ok (.createSynonym schema synonym)] catalog = .ok catalog' := by
  unfold synonymEffect? at effect
  split at effect
  · rename_i free
    obtain ⟨target, noTable, noSynonym⟩ := free
    rw [← h.tableIn?] at target
    rw [tableUnder, ← h.tables, ← h.frame.caseMode] at noTable
    rw [synonymUnder, ← h.frame.caseMode] at noSynonym
    rw [← h.frame.schemaKey?] at resolved
    obtain ⟨catalog', ran⟩ := Catalog.exists_createSynonym resolved target noTable noSynonym
    exact ⟨catalog', run_singleton_eq_ok_iff.mpr ran⟩
  · cases effect

theorem TakesSynonyms.puts_of_run (h : TakesSynonyms base catalog)
    (resolved : base.schemaKey? schema = some key) {synonym : Synonym}
    (ran : run [.ok (.createSynonym schema synonym)] catalog = .ok catalog') :
    synonymEffect? base (key, base.caseMode.key synonym.name) synonym
        (synonymUnder catalog (key, base.caseMode.key synonym.name)) = some (some synonym) ∧
      catalog.PutsSynonym catalog' key (base.caseMode.key synonym.name) synonym := by
  rw [run_singleton_eq_ok_iff] at ran
  rw [← h.frame.schemaKey?] at resolved
  obtain ⟨target, noTable, noSynonym, puts⟩ := Catalog.puts_of_createSynonym resolved ran
  rw [h.tableIn?] at target
  rw [h.frame.caseMode, h.tables] at noTable
  rw [h.frame.caseMode] at noSynonym puts
  exact ⟨if_pos ⟨target, noTable, noSynonym⟩, puts⟩

theorem actsAt_synonym (resolved : base.schemaKey? schema = some key) (synonym : Synonym) :
    ActsAt (TakesSynonyms base) synonymUnder (key, base.caseMode.key synonym.name)
      [.ok (.createSynonym schema synonym)]
      (synonymEffect? base (key, base.caseMode.key synonym.name) synonym) := by
  constructor
  · intro catalog left h effect
    exact h.exists_run resolved effect
  · intro catalog catalog' h ran
    obtain ⟨-, puts⟩ := h.puts_of_run resolved ran
    exact ⟨puts.frame.trans h.frame, fun key place =>
      (puts.tables key place).trans (h.tables key place)⟩
  · intro catalog catalog' h ran
    obtain ⟨effect, puts⟩ := h.puts_of_run resolved ran
    rw [effect, synonymUnder, puts.synonyms, if_pos ⟨rfl, rfl⟩]
  · intro catalog catalog' h ran other different
    obtain ⟨-, puts⟩ := h.puts_of_run resolved ran
    rw [synonymUnder, synonymUnder, puts.synonyms, if_neg]
    exact fun same => different (Prod.ext same.1 same.2)

theorem fresh_synonym {place : String × String} {synonym : Synonym}
    {stored left : Option Synonym}
    (after : synonymEffect? base place synonym stored = some left) :
    stored = none ∧ left ≠ none := by
  unfold synonymEffect? at after
  split at after
  · rename_i free
    cases after
    exact ⟨free.2.2, Option.some_ne_none synonym⟩
  · cases after

end Fixture

end CatalogViews
