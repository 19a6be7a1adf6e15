import CatalogViews.Proofs.TableIntegrity
import CatalogViews.Proofs.TablePlaces

/-!
# A catalog as a map of tables

Seen through the lookup of a table by the names of its schema and of itself, a catalog is a map with
pairs of identifiers as keys. `Operation.Rewrites` says what a success of an operation does to this
map: under the pairs that the operation concerns it puts a table in, removes one, or changes one in
the parts that it targets; under all other pairs the map stays. Synonyms and new schemas are not in
the map at all.

The names that an operation gives are resolved when it is carried out, and the names of a lookup
once more. That the two meet exactly where the names are the same identifiers rests on the names of
a reached catalog being unique.
-/

namespace CatalogViews

/-- The parts of a table in which constraints and indexes are kept. -/
inductive TablePart where
  | primaryKey
  | uniqueKeys
  | foreignKeys
  | indexes
deriving DecidableEq

/-- The column is the same, or it has one of the names and has become not null. -/
def Column.SameOrRequired (names : List String) (old new : Column) : Prop :=
  new = old ∨ old.name ∈ names ∧ new = { old with nullable := false }

namespace Table

/-- Whether a part of a table has something of that name. -/
def partHas (table : Table) (name : String) : TablePart → Bool
  | .primaryKey => table.primaryKey.any (·.name == name)
  | .uniqueKeys => table.uniqueKeys.any (·.name == name)
  | .foreignKeys => table.foreignKeys.any (·.name == name)
  | .indexes => table.indexes.any (·.name == name)

/-- A table is changed in the given parts only, and columns of the given names become not null. -/
structure ChangesOnly (parts : TablePart → Bool) (required : List String) (old new : Table) :
    Prop where
  name : new.name = old.name
  kind : new.kind = old.kind
  hidden : new.hidden = old.hidden
  comment : new.comment = old.comment
  columns : List.Forall₂ (Column.SameOrRequired required) old.columns new.columns
  primaryKey : parts .primaryKey = false → new.primaryKey = old.primaryKey
  uniqueKeys : parts .uniqueKeys = false → new.uniqueKeys = old.uniqueKeys
  foreignKeys : parts .foreignKeys = false → new.foreignKeys = old.foreignKeys
  indexes : parts .indexes = false → new.indexes = old.indexes

theorem forall₂_sameOrRequired_refl (names : List String) (columns : List Column) :
    List.Forall₂ (Column.SameOrRequired names) columns columns :=
  List.forall₂_same.mpr fun _ _ => .inl rfl

theorem forall₂_requireColumn {names : List String} {name : String} (member : name ∈ names)
    {old new : List Column} (same : List.Forall₂ (Column.SameOrRequired names) old new) :
    List.Forall₂ (Column.SameOrRequired names) old (requireColumn name new) := by
  induction same with
  | nil => exact .nil
  | cons column columns ih =>
    unfold requireColumn
    split
    · rename_i here
      refine .cons ?_ columns
      rcases column with rfl | ⟨named, rfl⟩
      · rw [← here] at member
        exact .inr ⟨member, rfl⟩
      · exact .inr ⟨named, rfl⟩
    · exact .cons column ih

/-- Only columns of the key become not null. -/
theorem forall₂_withPrimaryKey (table : Table) (key : Key) :
    List.Forall₂ (Column.SameOrRequired key.columns) table.columns
      (table.withPrimaryKey key).columns := by
  rw [withPrimaryKey]
  suffices h : ∀ names ⊆ key.columns, ∀ new,
      List.Forall₂ (Column.SameOrRequired key.columns) table.columns new →
      List.Forall₂ (Column.SameOrRequired key.columns) table.columns
        (names.foldl (fun columns name => requireColumn name columns) new) from
    h key.columns (List.Subset.refl _) _ (forall₂_sameOrRequired_refl _ _)
  intro names
  induction names with
  | nil => exact fun _ _ same => same
  | cons name names ih =>
    intro among new same
    rw [List.cons_subset] at among
    exact ih among.2 _ (forall₂_requireColumn among.1 same)

end Table

namespace Operation

/-- The names of the schema and of the table whose constraints or indexes an operation changes. -/
def namedTable? : Operation → Option (String × String)
  | setPrimaryKey schema table _ => some (schema, table)
  | addUniqueKey schema table _ => some (schema, table)
  | addForeignKey schema table _ => some (schema, table)
  | dropConstraint schema table _ => some (schema, table)
  | addIndex schema index => some (schema, index.table)
  | dropIndex schema table _ => some (schema, table)
  | _ => none

/-- Whether an operation removes tables. -/
def dropsTables : Operation → Bool
  | dropTable _ => true
  | dropSchema _ _ => true
  | _ => false

/-- Whether an operation is about the table that a pair of names means: the names are those that the
operation gives or, for a dropped schema, the schema is. -/
def concerns (catalog : Catalog) (schema table : String) : Operation → Bool
  | createTable new =>
    catalog.sameIdentifier schema catalog.currentSchema && catalog.sameIdentifier table new.name
  | createTableIn owner new =>
    catalog.sameIdentifier schema owner && catalog.sameIdentifier table new.name
  | dropTable name =>
    catalog.sameIdentifier schema (catalog.qualify name).1 &&
      catalog.sameIdentifier table (catalog.qualify name).2
  | dropSchema name _ => catalog.sameIdentifier schema name
  | operation => operation.namedTable?.any fun (owner, name) =>
    catalog.sameIdentifier schema owner && catalog.sameIdentifier table name

/-- The parts of a table that an operation is about. A constraint is dropped where there is one of
that name, first of all as the primary key. -/
def targets (table : Table) : Operation → TablePart → Bool
  | setPrimaryKey _ _ _, part => part == .primaryKey
  | addUniqueKey _ _ _, part => part == .uniqueKeys
  | addForeignKey _ _ _, part => part == .foreignKeys
  | dropConstraint _ _ name, part =>
    part != .indexes && table.partHas name part &&
      (part == .primaryKey || !table.partHas name .primaryKey)
  | addIndex _ _, part => part == .indexes
  | dropIndex _ _ _, part => part == .indexes
  | _, _ => false

/-- The columns that an operation makes not null, as the changed table has it. -/
def requiredColumns (new : Table) : Operation → List String
  | setPrimaryKey _ _ _ => new.primaryKey.toList.flatMap (·.columns)
  | _ => []

variable {operation : Operation} {catalog catalog' : Catalog} {schema name : String}

theorem filter_eq_self_of_partHas {α : Type} {nameOf : α → String} {values : List α}
    (absent : values.any (nameOf · == name) = false) :
    values.filter (nameOf · != name) = values := by
  simpa [List.filter_eq_self] using absent

theorem Edits.changesOnly {old new : Table} (edits : operation.Edits catalog schema name old new) :
    Table.ChangesOnly (operation.targets old) (operation.requiredColumns new) old new := by
  have columns (required : List String) := Table.forall₂_sameOrRequired_refl required old.columns
  have touched {same : Prop} (untouched : true = false) : same := Bool.noConfusion untouched
  cases edits with
  | @setPrimaryKey _ key columns free unused spelled =>
    refine ⟨rfl, rfl, rfl, rfl, ?_, touched, fun _ => rfl, fun _ => rfl, fun _ => rfl⟩
    simpa [requiredColumns, Table.withPrimaryKey] using
      Table.forall₂_withPrimaryKey old ⟨key.name, columns⟩
  | addUniqueKey unused spelled =>
    exact ⟨rfl, rfl, rfl, rfl, columns _, fun _ => rfl, touched, fun _ => rfl, fun _ => rfl⟩
  | addForeignKey resolution unused spelled =>
    exact ⟨rfl, rfl, rfl, rfl, columns _, fun _ => rfl, fun _ => rfl, touched, fun _ => rfl⟩
  | dropPrimaryKey declared =>
    refine ⟨rfl, rfl, rfl, rfl, columns _, ?_, fun _ => rfl, fun _ => rfl, fun _ => rfl⟩
    simp [targets, Table.partHas, declared]
  | dropNamed other =>
    refine ⟨rfl, rfl, rfl, rfl, columns _, fun _ => rfl, ?_, ?_, fun _ => rfl⟩
    · intro untouched
      apply filter_eq_self_of_partHas
      simpa [targets, Table.partHas, other] using untouched
    · intro untouched
      apply filter_eq_self_of_partHas
      simpa [targets, Table.partHas, other] using untouched
  | addIndex named unused spelled =>
    exact ⟨rfl, rfl, rfl, rfl, columns _, fun _ => rfl, fun _ => rfl, fun _ => rfl, touched⟩
  | dropIndex found =>
    exact ⟨rfl, rfl, rfl, rfl, columns _, fun _ => rfl, fun _ => rfl, fun _ => rfl, touched⟩

/-- Where the constraints of a table have different names, only one part of it is changed. -/
theorem targets_unique {table : Table} {part part' : TablePart}
    (distinct : table.constraintNames.Nodup) (targeted : operation.targets table part = true)
    (targeted' : operation.targets table part' = true) : part = part' := by
  cases operation with
  | dropConstraint owner name constraint =>
    have apart (unique : table.partHas constraint .uniqueKeys = true)
        (foreign : table.partHas constraint .foreignKeys = true) : False := by
      obtain ⟨key, keys, rfl⟩ : ∃ key ∈ table.uniqueKeys, key.name = constraint := by
        simpa [Table.partHas] using unique
      obtain ⟨fk, fks, same⟩ : ∃ fk ∈ table.foreignKeys, fk.name = key.name := by
        simpa [Table.partHas] using foreign
      refine (List.nodup_append'.mp distinct).2.2 ?_ (List.mem_map.mpr ⟨fk, fks, same⟩)
      exact List.mem_append_right _ (List.mem_map.mpr ⟨key, keys, rfl⟩)
    cases part <;> cases part' <;> simp_all [targets]
  | _ => simp_all [targets]

end Operation

namespace Catalog

variable {catalog catalog' : Catalog} {schema name : String}

theorem mem_keys_of_tableAt? {key : String} {stored : Table}
    (kept : catalog.tableAt? key name = some stored) : key ∈ catalog.schemas.keys := by
  obtain ⟨owner, found, -⟩ := tableAt?_eq_some_iff.mp kept
  exact Keyed.mem_keys_iff.mpr ⟨owner, found⟩

variable (h : catalog.WellNamed) (h' : catalog'.WellNamed)
  (sameMode : catalog'.caseMode = catalog.caseMode)

include h h' sameMode

/-- Changed is what the names of the same identifiers mean. -/
theorem tableIn?_of_updates {owner table : String} {old new : Option Table}
    (updates : catalog.Updates catalog' owner table old new) (schema name : String) :
    catalog'.tableIn? schema name =
      if catalog.sameIdentifier schema owner && catalog.sameIdentifier name table then new
      else catalog.tableIn? schema name := by
  obtain ⟨key, resolved, -, after⟩ := updates
  obtain ⟨used, same⟩ := schemaKey?_eq_some resolved
  ext stored
  rw [h'.tableIn?_eq_some_iff, sameMode]
  simp only [after, sameIdentifier, Bool.and_eq_true, CaseMode.same_iff]
  split
  · rename_i here
    constructor
    · rintro ⟨other, means, kept⟩
      by_cases changed : other = key ∧ catalog.caseMode.key name = catalog.caseMode.key table
      · rwa [if_pos changed] at kept
      · rw [if_neg changed] at kept
        refine absurd ⟨?_, here.2⟩ changed
        exact h.distinct other (mem_keys_of_tableAt? kept) key used
          (means.trans (here.1.trans same.symm))
    · intro found
      exact ⟨key, same.trans here.1.symm, by rw [if_pos ⟨rfl, here.2⟩]; exact found⟩
  · rename_i elsewhere
    rw [h.tableIn?_eq_some_iff]
    refine exists_congr fun other => and_congr_right fun means => ?_
    rw [if_neg]
    rintro ⟨rfl, tables⟩
    exact elsewhere ⟨means.symm.trans same, tables⟩

/-- Of a dropped schema nothing is left. -/
theorem tableIn?_of_dropSchema {owner : String} {cascade : Bool}
    (ran : dropSchema owner cascade catalog = .ok () catalog') (schema name : String) :
    catalog'.tableIn? schema name =
      if catalog.sameIdentifier schema owner then none else catalog.tableIn? schema name := by
  obtain ⟨key, dropped, resolved, -, -, after⟩ := dropSchema_eq_ok ran
  obtain ⟨used, same⟩ := schemaKey?_eq_some resolved
  ext stored
  rw [h'.tableIn?_eq_some_iff, sameMode]
  simp only [after, sameIdentifier, CaseMode.same_iff]
  split
  · rename_i here
    constructor
    · rintro ⟨other, means, kept⟩
      split at kept
      · cases kept
      · rename_i different
        refine absurd ?_ different
        exact h.distinct other (mem_keys_of_tableAt? kept) key used
          (means.trans (here.trans same.symm))
    · exact nofun
  · rename_i elsewhere
    rw [h.tableIn?_eq_some_iff]
    refine exists_congr fun other => and_congr_right fun means => ?_
    rw [if_neg]
    rintro rfl
    exact elsewhere (means.symm.trans same)

end Catalog

namespace Operation

/-- What an operation about one table does: it changes the parts of the table that it is about, and
it changes nothing else in the catalog. -/
structure ChangesTable (operation : Operation) (catalog catalog' : Catalog) (schema name : String)
    (owner : Schema) (old new : Table) : Prop where
  named : catalog.schema? schema = some owner
  kept : owner.table? catalog.caseMode name = some old
  replaced : catalog' = catalog.withTable owner.name (catalog.caseMode.key name) new
  edits : operation.Edits catalog schema name old new
  parts : Table.ChangesOnly (operation.targets old) (operation.requiredColumns new) old new
  onePart : old.constraintNames.Nodup → ∀ part part', operation.targets old part = true →
    operation.targets old part' = true → part = part'

/-- What a success of an operation does to a catalog as a map of tables. -/
structure Rewrites (operation : Operation) (catalog catalog' : Catalog) : Prop where
  unconcerned : ∀ schema name, operation.concerns catalog schema name = false →
    catalog'.tableIn? schema name = catalog.tableIn? schema name
  created : ∀ table ∈ operation.newTable?, ∀ schema name,
    operation.concerns catalog schema name = true → catalog'.tableIn? schema name = some table
  dropped : operation.dropsTables = true → ∀ schema name,
    operation.concerns catalog schema name = true → catalog'.tableIn? schema name = none
  changed : ∀ owner table, operation.namedTable? = some (owner, table) → ∃ kept old new,
    operation.ChangesTable catalog catalog' owner table kept old new ∧ ∀ schema name,
      operation.concerns catalog schema name = true →
        catalog.tableIn? schema name = some old ∧ catalog'.tableIn? schema name = some new

variable {operation : Operation} {catalog catalog' : Catalog} {schema name : String}

theorem namedTable?_of_tableEdit? {edit : Edit Table Unit}
    (edits : operation.tableEdit? catalog = some (schema, name, edit)) :
    operation.namedTable? = some (schema, name) := by
  cases operation with
  | addForeignKey owner table fk =>
    simp only [tableEdit?] at edits
    split at edits <;> cases edits
    rfl
  | _ =>
    cases edits
    try rfl

theorem exists_tableEdit? (named : operation.namedTable? = some (schema, name))
    (ran : operation.perform catalog = .ok () catalog') :
    ∃ edit, operation.tableEdit? catalog = some (schema, name, edit) := by
  cases operation with
  | addForeignKey owner table fk =>
    cases named
    simp only [perform, Catalog.addForeignKey] at ran
    split at ran
    · cases ran
    · rename_i resolved resolution
      exact ⟨_, by rw [tableEdit?, resolution]⟩
  | _ =>
    cases named
    try exact ⟨_, rfl⟩

theorem exists_changesTable (h : catalog.WellNamed)
    (named : operation.namedTable? = some (schema, name))
    (ran : operation.perform catalog = .ok () catalog') :
    ∃ owner old new, operation.ChangesTable catalog catalog' schema name owner old new ∧
      catalog.Updates catalog' schema name (some old) (some new) := by
  obtain ⟨edit, edits⟩ := exists_tableEdit? named ran
  rw [perform_eq_onTable edits] at ran
  obtain ⟨key, old, new, resolved, place, edited, rfl⟩ := Catalog.onTable_eq_ok_iff.mp ran
  obtain ⟨owner, found, kept⟩ := Catalog.tableAt?_eq_some_iff.mp place
  obtain rfl : owner.name = key := (h.schemas key owner found).declared
  have changes := edits_of_tableEdit? edits edited
  refine ⟨owner, old, new, ⟨?_, kept, rfl, changes, changes.changesOnly, ?_⟩, owner.name, resolved,
    place, Catalog.tableAt?_withTable place new⟩
  · rw [Catalog.schema?, resolved]
    exact found
  · exact fun distinct part part' => targets_unique distinct

/-- Of an operation on no table, all tables are left as they are. -/
theorem tableAt?_eq_of_perform (created : operation.newTable? = none)
    (dropped : operation.dropsTables = false) (named : operation.namedTable? = none)
    (ran : operation.perform catalog = .ok () catalog') (key table : String) :
    catalog'.tableAt? key table = catalog.tableAt? key table := by
  have changes := changes_of_ok ran key table
  generalize catalog.tableAt? key table = old, catalog'.tableAt? key table = new at changes
  cases changes with
  | keep => rfl
  | put given =>
    rw [created] at given
    cases given
  | dropTable => cases dropped
  | dropSchema => cases dropped
  | edit resolved sameKey edits => cases edits <;> cases named

/-- One value for all names that an operation concerns. -/
theorem Rewrites.of_lookups (value : Option Table)
    (after : ∀ schema name, catalog'.tableIn? schema name =
      if operation.concerns catalog schema name then value else catalog.tableIn? schema name)
    (created : ∀ table ∈ operation.newTable?, value = some table)
    (dropped : operation.dropsTables = true → value = none)
    (changed : ∀ owner table, operation.namedTable? = some (owner, table) → ∃ kept old new,
      operation.ChangesTable catalog catalog' owner table kept old new ∧ value = some new ∧
        ∀ schema name, operation.concerns catalog schema name = true →
          catalog.tableIn? schema name = some old) :
    operation.Rewrites catalog catalog' where
  unconcerned schema name outside := by rw [after, outside, if_neg Bool.false_ne_true]
  created table handed schema name inside := by rw [after, if_pos inside, created table handed]
  dropped drops schema name inside := by rw [after, if_pos inside, dropped drops]
  changed owner table named := by
    obtain ⟨kept, old, new, changes, rfl, before⟩ := changed owner table named
    refine ⟨kept, old, new, changes, fun schema name inside => ⟨before schema name inside, ?_⟩⟩
    rw [after, if_pos inside]

section

variable (h : catalog.WellNamed) (h' : catalog'.WellNamed)
  (sameMode : catalog'.caseMode = catalog.caseMode)

include h h' sameMode

theorem rewrites_of_namedTable? {owner table : String}
    (named : operation.namedTable? = some (owner, table))
    (ran : operation.perform catalog = .ok () catalog') :
    operation.Rewrites catalog catalog' := by
  obtain ⟨kept, old, new, changes, updates⟩ := exists_changesTable h named ran
  have concerned (schema name : String) : operation.concerns catalog schema name =
      (catalog.sameIdentifier schema owner && catalog.sameIdentifier name table) := by
    cases operation <;> cases named <;> rfl
  have before (schema name : String) (inside : operation.concerns catalog schema name = true) :
      catalog.tableIn? schema name = some old := by
    obtain ⟨key, resolved, place, -⟩ := updates
    simp only [concerned, Catalog.sameIdentifier, Bool.and_eq_true, CaseMode.same_iff] at inside
    rw [h.tableIn?_eq_some_iff, inside.1, inside.2]
    exact ⟨key, (Catalog.schemaKey?_eq_some resolved).2, place⟩
  refine .of_lookups (some new) ?_ ?_ ?_ ?_
  · intro schema name
    rw [concerned]
    exact Catalog.tableIn?_of_updates h h' sameMode updates schema name
  · cases operation <;> cases named <;> exact nofun
  · cases operation <;> cases named <;> exact nofun
  · intro owner' table' named'
    obtain ⟨rfl, rfl⟩ := Prod.mk.inj (Option.some.inj (named.symm.trans named'))
    exact ⟨kept, old, new, changes, rfl, before⟩

/-- What a success of an operation does to the tables that names mean. -/
theorem rewrites_of_perform (ran : operation.perform catalog = .ok () catalog') :
    operation.Rewrites catalog catalog' := by
  cases named : operation.namedTable? with
  | some names => exact rewrites_of_namedTable? h h' sameMode named ran
  | none =>
    have updated {owner name : String} {old new : Option Table} :=
      @Catalog.tableIn?_of_updates _ _ h h' sameMode owner name old new
    cases operation with
    | createTable table =>
      exact .of_lookups (some table) (updated (Catalog.createTableIn_eq_ok ran))
        (fun _ given => given) nofun nofun
    | createTableIn owner table =>
      exact .of_lookups (some table) (updated (Catalog.createTableIn_eq_ok ran))
        (fun _ given => given) nofun nofun
    | dropTable name =>
      obtain ⟨old, updates⟩ := Catalog.dropTable_eq_ok ran
      exact .of_lookups none (updated updates) nofun (fun _ => rfl) nofun
    | dropSchema name cascade =>
      exact .of_lookups none (Catalog.tableIn?_of_dropSchema h h' sameMode ran) nofun (fun _ => rfl)
        nofun
    | createSchema | setCurrentSchema | createSynonym | dropSynonym | setCollation | setCaseMode =>
      have same := tableAt?_eq_of_perform rfl rfl rfl ran
      exact .of_lookups none (Catalog.tableIn?_of_tableAt?_eq h h' sameMode same) nofun nofun nofun
    | _ => cases named

end

/-- An operation that changes the catalog has succeeded. -/
theorem perform_of_changed (keeps : operation.keepsCaseMode = true)
    (changed : operation.applyTo catalog ≠ catalog) :
    operation.perform catalog = .ok () (operation.applyTo catalog) := by
  have obeys : operation.perform.Obeys (Catalog.Step fun _ => True) :=
    perform_obeys keeps fun _ _ => trivial
  rw [applyTo] at changed ⊢
  split
  · assumption
  · rename_i error catalog' failed
    rw [failed] at changed
    exact absurd (obeys.atomic catalog error catalog' failed) changed

/-- While the case mode stays, every success of an operation on a reached catalog rewrites the
tables that the operation concerns, and no others. -/
theorem rewrites_of_ok (reached : catalog.Reached fun _ _ => True)
    (keeps : operation.keepsCaseMode = true) (ran : operation.perform catalog = .ok () catalog') :
    operation.Rewrites catalog catalog' := by
  have left : operation.applyTo catalog = catalog' := by rw [applyTo, ran]
  have further : catalog'.Reached fun _ _ => True := by
    rw [← left]
    exact reached.perform operation keeps fun _ _ => trivial
  have sameMode : catalog'.caseMode = catalog.caseMode := by
    rw [← left]
    exact operation.applyTo_caseMode keeps catalog
  exact rewrites_of_perform reached.wellNamed further.wellNamed sameMode ran

/-- A primary key for one of two tables, with other spellings of all names. -/
theorem rewrites_of_expanding_folds :
    let columns : List Column := [{ name := "A", type := .integer }, { name := "B", type := .real }]
    let catalog := (Catalog.started "C" .insensitive).after
      [.createSchema "Straße", .createTableIn "STRASSE" { name := "Maß", columns },
        .createTableIn "STRASSE" { name := "P", columns }]
    let operation : Operation := .setPrimaryKey "strasse" "MASS" ⟨"K", ["a"]⟩
    let catalog' := operation.applyTo catalog
    operation.perform catalog = .ok () catalog' ∧ operation.Rewrites catalog catalog' ∧
      operation.concerns catalog "STRAßE" "mass" = true ∧
      operation.concerns catalog "Straße" "p" = false ∧
      (catalog'.tableIn? "STRAßE" "mass").bind (·.primaryKey) = some ⟨"K", ["A"]⟩ ∧
      catalog'.tableIn? "Straße" "p" = catalog.tableIn? "Straße" "p" := by
  intro columns catalog operation catalog'
  have reached : catalog.Reached fun _ _ => True := by
    refine (Catalog.Reached.start "C" .insensitive).after _ ?_
    simp [Operation.keepsCaseMode]
  have ran : operation.perform catalog = .ok () catalog' :=
    perform_of_changed rfl (by decide +kernel)
  have rewrites := rewrites_of_ok reached rfl ran
  have outside : operation.concerns catalog "Straße" "p" = false := by decide +kernel
  exact ⟨ran, rewrites, by decide +kernel, outside, by decide +kernel,
    rewrites.unconcerned "Straße" "p" outside⟩

end Operation

end CatalogViews
