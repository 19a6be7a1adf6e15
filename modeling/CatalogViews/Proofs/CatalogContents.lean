import CatalogViews.Proofs.EnumerationOrder
import CatalogViews.Proofs.TablePlaces

/-!
# What a catalog contains

A catalog is a frame, that is its settings and its schemas, and in this frame the tables and the
synonyms under pairs of keys (`tableAt?`, `synonymAt?`). The operations that fill a catalog keep the
frame and put one object in its place (`Catalog.Puts`, `Catalog.PutsSynonym`).

A foreign key is resolved by the frame and by the columns and keys of the tables; other foreign keys
and the indexes do not matter (`resolveForeignKey_congr`). Well-named catalogs with the same frame
and the same objects differ at most in order, and are equal in the order of names
(`SameContents.inNameOrder_eq`).
-/

namespace CatalogViews

/-- A table before foreign keys and indexes are added to it. -/
def Table.withoutReferences (table : Table) : Table :=
  { table with foreignKeys := [], indexes := [] }

/-- For a foreign key that refers to them, the schemas are the same. -/
structure Schema.SameParents (schema other : Schema) : Prop where
  name : schema.name = other.name
  tables : ∀ key, (schema.tables.find? key).map Table.withoutReferences =
    (other.tables.find? key).map Table.withoutReferences

theorem rel_of_map_eq {α β γ : Type} {f : α → γ} {g : β → γ} {a : Option α} {b : Option β}
    (same : a.map f = b.map g) : Option.Rel (fun x y => f x = g y) a b := by
  cases a with
  | none =>
    cases b with
    | none => exact .none
    | some y => cases same
  | some x =>
    cases b with
    | none => cases same
    | some y => exact .some (Option.some.inj same)

namespace Catalog

/-- The synonym that is kept under the key of a schema and a key of its own. -/
def synonymAt? (catalog : Catalog) (schema key : String) : Option Synonym :=
  (catalog.schemas.find? schema).bind (·.synonyms.find? key)

/-- The same settings, and schemas of the same names that the same names mean. -/
structure SameFrame (catalog other : Catalog) : Prop where
  name : catalog.name = other.name
  currentSchema : catalog.currentSchema = other.currentSchema
  collation : catalog.collation = other.collation
  caseMode : catalog.caseMode = other.caseMode
  schemaKey? : ∀ name, catalog.schemaKey? name = other.schemaKey? name
  names : ∀ key, (catalog.schemas.find? key).map (·.name) = (other.schemas.find? key).map (·.name)

/-- The same frame, and in it the same objects. -/
structure SameContents (catalog other : Catalog) : Prop where
  frame : catalog.SameFrame other
  tables : ∀ schema key, catalog.tableAt? schema key = other.tableAt? schema key
  synonyms : ∀ schema key, catalog.synonymAt? schema key = other.synonymAt? schema key

/-- The frame is the same, and so is every object but the table under one pair of keys. -/
structure Puts (catalog catalog' : Catalog) (schema key : String) (new : Table) : Prop where
  frame : catalog'.SameFrame catalog
  synonyms : ∀ other place, catalog'.synonymAt? other place = catalog.synonymAt? other place
  tables : ∀ other place, catalog'.tableAt? other place =
    if other = schema ∧ place = key then some new else catalog.tableAt? other place

/-- The frame is the same, and so is every object but the synonym under one pair of keys. -/
structure PutsSynonym (catalog catalog' : Catalog) (schema key : String) (new : Synonym) :
    Prop where
  frame : catalog'.SameFrame catalog
  tables : ∀ other place, catalog'.tableAt? other place = catalog.tableAt? other place
  synonyms : ∀ other place, catalog'.synonymAt? other place =
    if other = schema ∧ place = key then some new else catalog.synonymAt? other place

variable {catalog catalog' other : Catalog} {schema key name : String}

theorem SameFrame.refl (catalog : Catalog) : catalog.SameFrame catalog :=
  ⟨rfl, rfl, rfl, rfl, fun _ => rfl, fun _ => rfl⟩

theorem SameFrame.trans (same : catalog.SameFrame catalog') (same' : catalog'.SameFrame other) :
    catalog.SameFrame other where
  name := same.name.trans same'.name
  currentSchema := same.currentSchema.trans same'.currentSchema
  collation := same.collation.trans same'.collation
  caseMode := same.caseMode.trans same'.caseMode
  schemaKey? name := (same.schemaKey? name).trans (same'.schemaKey? name)
  names key := (same.names key).trans (same'.names key)

theorem SameFrame.symm (same : catalog.SameFrame other) : other.SameFrame catalog where
  name := same.name.symm
  currentSchema := same.currentSchema.symm
  collation := same.collation.symm
  caseMode := same.caseMode.symm
  schemaKey? name := (same.schemaKey? name).symm
  names key := (same.names key).symm

/-- What a name means depends on the keys of the schemas only. -/
theorem schemaKey?_replace (owner : Schema) (name : String) :
    ({ catalog with schemas := catalog.schemas.replace key owner } : Catalog).schemaKey? name =
      catalog.schemaKey? name := by
  have contains : (catalog.schemas.replace key owner).contains name =
      catalog.schemas.contains name := by
    rw [Bool.eq_iff_iff, Keyed.contains_iff, Keyed.contains_iff, Keyed.keys_replace]
  simp only [schemaKey?, contains, Keyed.keys_replace]

/-- Another schema of the same name in place of one. -/
theorem sameFrame_replace {owner owner' : Schema} (used : catalog.schemas.find? key = some owner)
    (same : owner'.name = owner.name) :
    SameFrame { catalog with schemas := catalog.schemas.replace key owner' } catalog where
  name := rfl
  currentSchema := rfl
  collation := rfl
  caseMode := rfl
  schemaKey? := schemaKey?_replace owner'
  names other := by
    rw [Keyed.find?_replace used]
    by_cases here : other = key
    · simp [here, used, same]
    · simp [here]

theorem exists_schema_of_schemaKey? (resolved : catalog.schemaKey? schema = some key) :
    ∃ owner, catalog.schemas.find? key = some owner :=
  Keyed.mem_keys_iff.mp (schemaKey?_eq_some resolved).1

theorem hasKey_eq_false_iff {owner : Schema} (found : catalog.schemas.find? schema = some owner) :
    owner.hasKey key = false ↔
      catalog.tableAt? schema key = none ∧ catalog.synonymAt? schema key = none := by
  simp [Schema.hasKey, Keyed.contains_eq_isSome_find?, tableAt?, synonymAt?, found]

theorem exists_createTableIn {new : Table} (resolved : catalog.schemaKey? schema = some key)
    (noTable : catalog.tableAt? key (catalog.caseMode.key new.name) = none)
    (noSynonym : catalog.synonymAt? key (catalog.caseMode.key new.name) = none) :
    ∃ catalog', createTableIn schema new catalog = .ok () catalog' := by
  obtain ⟨owner, found⟩ := exists_schema_of_schemaKey? resolved
  have free := (hasKey_eq_false_iff found).mpr ⟨noTable, noSynonym⟩
  have edited : Schema.createTable catalog.caseMode new owner = .ok () { owner with
      tables := owner.tables.insertNew (catalog.caseMode.key new.name) new } := by
    rw [Schema.createTable, free, if_neg Bool.false_ne_true]
  exact ⟨_, onSchema_eq_ok_iff.mpr ⟨key, owner, _, resolved, found, edited, rfl⟩⟩

theorem puts_of_createTableIn {new : Table} (resolved : catalog.schemaKey? schema = some key)
    (ran : createTableIn schema new catalog = .ok () catalog') :
    catalog.tableAt? key (catalog.caseMode.key new.name) = none ∧
      catalog.Puts catalog' key (catalog.caseMode.key new.name) new := by
  obtain ⟨key', owner, owner', resolved', found, edited, rfl⟩ := onSchema_eq_ok_iff.mp ran
  obtain rfl : key' = key := Option.some.inj (resolved'.symm.trans resolved)
  unfold Schema.createTable at edited
  split at edited
  · cases edited
  · rename_i free
    cases edited
    have noTable := ((hasKey_eq_false_iff found).mp (Bool.eq_false_iff.mpr free)).1
    have fresh : owner.tables.find? (catalog.caseMode.key new.name) = none :=
      (Schema.find?_eq_none_of_hasKey (Bool.eq_false_iff.mpr free)).1
    refine ⟨noTable, sameFrame_replace found rfl, ?_, ?_⟩
    · intro other place
      exact bind_find?_replace_of_eq found Schema.synonyms rfl
    · intro other place
      exact tableAt?_replace found (Keyed.find?_insertNew fresh)

theorem puts_withTable {old : Table} (kept : catalog.tableAt? schema key = some old)
    (new : Table) : catalog.Puts (catalog.withTable schema key new) schema key new := by
  have tables := tableAt?_withTable kept new
  obtain ⟨owner, found, -⟩ := tableAt?_eq_some_iff.mp kept
  rw [withTable_eq found] at tables ⊢
  exact ⟨sameFrame_replace found rfl,
    fun other place => bind_find?_replace_of_eq found Schema.synonyms rfl, tables⟩

theorem exists_createSynonym {new : Synonym} (resolved : catalog.schemaKey? schema = some key)
    (target : (catalog.tableIn? new.targetSchema new.targetTable).isSome = true)
    (noTable : catalog.tableAt? key (catalog.caseMode.key new.name) = none)
    (noSynonym : catalog.synonymAt? key (catalog.caseMode.key new.name) = none) :
    ∃ catalog', createSynonym schema new catalog = .ok () catalog' := by
  obtain ⟨owner, found⟩ := exists_schema_of_schemaKey? resolved
  have free := (hasKey_eq_false_iff found).mpr ⟨noTable, noSynonym⟩
  have edited : Schema.createSynonym catalog.caseMode new owner = .ok () { owner with
      synonyms := owner.synonyms.insertNew (catalog.caseMode.key new.name) new } := by
    rw [Schema.createSynonym, free, if_neg Bool.false_ne_true]
  rw [createSynonym, if_neg (by simpa [Option.isSome_iff_ne_none] using target)]
  exact ⟨_, onSchema_eq_ok_iff.mpr ⟨key, owner, _, resolved, found, edited, rfl⟩⟩

theorem puts_of_createSynonym {new : Synonym} (resolved : catalog.schemaKey? schema = some key)
    (ran : createSynonym schema new catalog = .ok () catalog') :
    (catalog.tableIn? new.targetSchema new.targetTable).isSome = true ∧
      catalog.tableAt? key (catalog.caseMode.key new.name) = none ∧
      catalog.synonymAt? key (catalog.caseMode.key new.name) = none ∧
      catalog.PutsSynonym catalog' key (catalog.caseMode.key new.name) new := by
  unfold createSynonym at ran
  split at ran
  · cases ran
  · rename_i target
    obtain ⟨key', owner, owner', resolved', found, edited, rfl⟩ := onSchema_eq_ok_iff.mp ran
    obtain rfl : key' = key := Option.some.inj (resolved'.symm.trans resolved)
    unfold Schema.createSynonym at edited
    split at edited
    · cases edited
    · rename_i free
      cases edited
      obtain ⟨noTable, noSynonym⟩ := (hasKey_eq_false_iff found).mp (Bool.eq_false_iff.mpr free)
      have fresh : owner.synonyms.find? (catalog.caseMode.key new.name) = none :=
        (Schema.find?_eq_none_of_hasKey (Bool.eq_false_iff.mpr free)).2
      refine ⟨by simpa [Option.isSome_iff_ne_none] using target, noTable, noSynonym,
        sameFrame_replace found rfl, ?_, ?_⟩
      · intro other place
        exact tableAt?_replace_of_tables_eq found rfl
      · intro other place
        exact bind_find?_replace found Schema.synonyms (Keyed.find?_insertNew fresh)

/-- Only frames, and tables without references, are looked at. -/
theorem resolveForeignKey_congr (sameMode : catalog.caseMode = other.caseMode)
    (same : ∀ name, Option.Rel Schema.SameParents (catalog.schema? name) (other.schema? name))
    (schema : String) (fk : ForeignKey) :
    catalog.resolveForeignKey schema fk = other.resolveForeignKey schema fk := by
  unfold resolveForeignKey
  have parents := same (fk.parentSchema.getD schema)
  generalize catalog.schema? (fk.parentSchema.getD schema) = found,
    other.schema? (fk.parentSchema.getD schema) = found' at parents
  cases parents with
  | none => rfl
  | some alike =>
    rename_i owner owner'
    have parents := rel_of_map_eq (alike.tables (other.caseMode.key fk.parentTable))
    simp only [Schema.table?, sameMode, alike.name]
    generalize owner.tables.find? (other.caseMode.key fk.parentTable) = parent,
      owner'.tables.find? (other.caseMode.key fk.parentTable) = parent' at parents
    cases parents with
    | none => rfl
    | some tables =>
      rename_i parent parent'
      have name : parent.name = parent'.name := congrArg (·.name) tables
      have spellings (names : List String) : parent.spellings other.caseMode names =
          parent'.spellings other.caseMode names :=
        congrArg (·.spellings other.caseMode names) tables
      have keys (columns : List String) : parent.keyOver? columns = parent'.keyOver? columns :=
        congrArg (·.keyOver? columns) tables
      simp only [name, spellings, keys]

theorem SameFrame.sameParents (same : catalog.SameFrame other)
    (tables : ∀ schema key, (catalog.tableAt? schema key).map Table.withoutReferences =
      (other.tableAt? schema key).map Table.withoutReferences) (name : String) :
    Option.Rel Schema.SameParents (catalog.schema? name) (other.schema? name) := by
  rw [schema?, schema?, same.schemaKey? name]
  cases other.schemaKey? name with
  | none => exact .none
  | some key =>
    have names := rel_of_map_eq (same.names key)
    have tables := tables key
    simp only [tableAt?, Option.bind_some] at tables ⊢
    generalize catalog.schemas.find? key = owner, other.schemas.find? key = owner' at names tables
    cases names with
    | none => exact .none
    | some name => exact .some ⟨name, tables⟩

end Catalog

/-- Where the names tell the values apart, a map has one order of the names. -/
theorem Keyed.sortBy_name_eq {α : Type} {nameOf : α → String} {m n : Keyed α}
    (keyOf : String → String)
    (determined : ∀ key value, m.find? key = some value → key = keyOf (nameOf value))
    (same : ∀ key, m.find? key = n.find? key) :
    (m.sortBy fun a b => (Text.compareText (nameOf a.2) (nameOf b.2)).isLE) =
      n.sortBy fun a b => (Text.compareText (nameOf a.2) (nameOf b.2)).isLE := by
  have order := transCmp_comap Text.compareText fun entry : String × α => nameOf entry.2
  apply Keyed.ext
  apply mergeSort_eq_of_perm (fun _ _ _ => Std.TransCmp.isLE_trans) (isLE_total _) _
    (Keyed.entries_perm same)
  intro a member b member' alike
  have names : nameOf a.2 = nameOf b.2 :=
    Text.compareText_eq_eq_iff.mp ((alike_isLE_iff _).mp alike)
  have found : m.find? a.1 = some a.2 := Keyed.find?_eq_some_iff.mpr member
  have found' : m.find? b.1 = some b.2 := Keyed.find?_eq_some_iff.mpr member'
  have keys : a.1 = b.1 := by rw [determined _ _ found, determined _ _ found', names]
  rw [keys, found'] at found
  exact Prod.ext keys (Option.some.inj found).symm

theorem Schema.Reordered.inNameOrder_eq {schema other : Schema} {mode : CaseMode} {key : String}
    (same : schema.Reordered other) (h : schema.WellNamed mode key) :
    schema.inNameOrder = other.inNameOrder := by
  rw [inNameOrder, inNameOrder, same.name, Keyed.sortBy_name_eq mode.key h.tables same.tables,
    Keyed.sortBy_name_eq mode.key h.synonyms same.synonyms]

namespace Catalog

variable {catalog other : Catalog}

/-- Catalogs with the same contents differ at most in order. -/
theorem SameContents.reordered (same : catalog.SameContents other) : catalog.Reordered other where
  name := same.frame.name
  caseMode := same.frame.caseMode
  schemas key := by
    have names := rel_of_map_eq (same.frame.names key)
    have tables := same.tables key
    have synonyms := same.synonyms key
    simp only [tableAt?, synonymAt?] at tables synonyms
    generalize catalog.schemas.find? key = owner, other.schemas.find? key = owner' at *
    cases names with
    | none => exact .none
    | some name => exact .some ⟨name, tables, synonyms⟩

theorem SameContents.inNameOrder_eq (same : catalog.SameContents other) (h : catalog.WellNamed) :
    catalog.inNameOrder = other.inNameOrder := by
  have reordered := same.reordered
  have schemas (key : String) : (catalog.schemas.mapValues (·.inNameOrder)).find? key =
      (other.schemas.mapValues (·.inNameOrder)).find? key := by
    rw [Keyed.find?_mapValues, Keyed.find?_mapValues]
    have related := reordered.schemas key
    cases found : catalog.schemas.find? key with
    | none =>
      rw [found] at related
      generalize other.schemas.find? key = found' at related
      cases related
      rfl
    | some owner =>
      rw [found] at related
      generalize other.schemas.find? key = found' at related
      cases related with
      | some same => exact congrArg some (same.inNameOrder_eq (h.schemas key owner found))
  have declared (key : String) (schema : Schema)
      (found : (catalog.schemas.mapValues (·.inNameOrder)).find? key = some schema) :
      key = schema.name := by
    rw [Keyed.find?_mapValues] at found
    obtain ⟨owner, kept, rfl⟩ := Option.map_eq_some_iff.mp found
    exact h.declaredNames key owner kept
  rw [inNameOrder, inNameOrder, Keyed.sortBy_name_eq id declared schemas, same.frame.name,
    same.frame.currentSchema, same.frame.collation, same.frame.caseMode]

end Catalog

end CatalogViews
