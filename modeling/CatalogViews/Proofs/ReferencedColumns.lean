import CatalogViews.Proofs.ReferencedKeys
import CatalogViews.Proofs.Removal
import Mathlib.Data.Finset.Card
import Mathlib.Data.List.Perm.Subperm

/-!
# The columns of a referenced key

A foreign key is added if a key of its parent covers its parent columns: the key has as many columns
as there are, and has them all among these. That is meant to say that the key is over these columns,
in any order (`Key.IsOver`), and it does where no column is repeated.

Nothing keeps lists of columns free of repetitions, though. A key that repeats a column can cover
columns that it is not over, and a foreign key that repeats one can be refused although there is a
key over its columns. What is true of every foreign key is `Catalog.AddedOverKey`.
-/

namespace CatalogViews

/-- The key has the given columns, in any order. -/
def Key.IsOver (key : Key) (columns : List String) : Prop :=
  ∀ column, column ∈ key.columns ↔ column ∈ columns

instance (key : Key) (columns : List String) : Decidable (key.IsOver columns) :=
  decidable_of_iff (key.columns ⊆ columns ∧ columns ⊆ key.columns)
    ⟨fun h _ => ⟨fun member => h.1 member, fun member => h.2 member⟩,
      fun h => ⟨fun _ => (h _).mp, fun _ => (h _).mpr⟩⟩

namespace Table

variable {table : Table} {columns : List String} {key : Key}

/-- The primary key before the unique keys. -/
def keys (table : Table) : List Key :=
  table.primaryKey.toList ++ table.uniqueKeys

theorem covers_iff :
    covers columns key = true ↔ key.columns.length = columns.length ∧ key.columns ⊆ columns := by
  simp [covers, List.subset_def]

theorem toFinset_subset_of_covers (covered : covers columns key = true) :
    key.columns.toFinset ⊆ columns.toFinset := by
  intro column member
  rw [List.mem_toFinset] at member ⊢
  exact (covers_iff.mp covered).2 member

/-- A key that covers columns has no others, so it is a matter of counting whether it has all. -/
theorem isOver_iff_of_covers (covered : covers columns key = true) :
    key.IsOver columns ↔ key.columns.toFinset.card = columns.toFinset.card := by
  have among := toFinset_subset_of_covers covered
  have sets : key.IsOver columns ↔ key.columns.toFinset = columns.toFinset := by
    simp [Key.IsOver, Finset.ext_iff]
  rw [sets]
  constructor
  · intro same
    rw [same]
  · intro count
    exact Finset.eq_of_subset_of_card_le among count.ge

/-- A key that repeats no column is over the columns that it covers. -/
theorem isOver_of_covers (distinct : key.columns.Nodup) (covered : covers columns key = true) :
    key.IsOver columns := by
  rw [isOver_iff_of_covers covered]
  have most : columns.toFinset.card ≤ columns.length := List.toFinset_card_le columns
  have least : key.columns.toFinset.card ≤ columns.toFinset.card :=
    Finset.card_le_card (toFinset_subset_of_covers covered)
  have all : key.columns.toFinset.card = key.columns.length :=
    List.toFinset_card_of_nodup distinct
  have same := (covers_iff.mp covered).1
  omega

theorem covers_of_isOver (distinct : key.columns.Nodup) (distinct' : columns.Nodup)
    (sameColumns : key.IsOver columns) : covers columns key = true := by
  have perm : key.columns.Perm columns :=
    (List.perm_ext_iff_of_nodup distinct distinct').mpr sameColumns
  exact covers_iff.mpr ⟨perm.length_eq, perm.subset⟩

theorem exists_of_keyOver? {name : String} (found : table.keyOver? columns = some name) :
    ∃ key ∈ table.keys, key.name = name ∧ covers columns key = true := by
  obtain ⟨key, first, named⟩ := Option.map_eq_some_iff.mp found
  exact ⟨key, List.mem_of_find?_eq_some first, named, List.find?_some first⟩

theorem keyOver?_eq_none_iff :
    table.keyOver? columns = none ↔ ∀ key ∈ table.keys, ¬covers columns key = true := by
  rw [keyOver?, Option.map_eq_none_iff, List.find?_eq_none, keys]

/-- Without repetitions a key is found exactly if there is one over the columns. -/
theorem keyOver?_eq_none_iff_of_nodup (distinct : columns.Nodup)
    (distinct' : ∀ key ∈ table.keys, key.columns.Nodup) :
    table.keyOver? columns = none ↔ ∀ key ∈ table.keys, ¬key.IsOver columns := by
  rw [keyOver?_eq_none_iff]
  constructor
  · intro uncovered key member sameColumns
    exact uncovered key member (covers_of_isOver (distinct' key member) distinct sameColumns)
  · intro none key member covered
    exact none key member (isOver_of_covers (distinct' key member) covered)

/-- A table that gets a foreign key is not asked for the key that it references. -/
theorem addForeignKey_ne {mode : CaseMode} {fk : ForeignKey} {table' : Table}
    {error : CatalogError} (failed : addForeignKey mode fk table = .error error table')
    (constraint name : String) : error ≠ .referencedKeyNotFound constraint name := by
  unfold addForeignKey at failed
  split at failed
  · cases failed
    exact nofun
  · split at failed
    · rename_i unspelled
      cases failed
      obtain ⟨column, -, missing⟩ := exists_of_mapM_eq_error unspelled
      unfold spelling at missing
      split at missing
      · cases missing
      · cases missing
        exact nofun
    · cases failed

end Table

namespace Catalog

/-- The parent of a foreign key, and the parent columns as the parent spells them. They are as many
as the columns of the foreign key. -/
structure RefersTo (catalog : Catalog) (schema : String) (fk : ForeignKey) (parent : Table)
    (columns : List String) : Prop where
  paired : fk.columns.length = fk.parentColumns.length
  found : catalog.tableIn? (fk.parentSchema.getD schema) fk.parentTable = some parent
  spelled : parent.spellings catalog.caseMode fk.parentColumns = .ok columns

/-- How the outcome of adding a foreign key depends on the keys of its parent. -/
structure AddedOverKey (catalog : Catalog) (schema table : String) (fk : ForeignKey) : Prop where
  /-- The table gets a foreign key that names a key of the parent. The columns of this key are among
  the parent columns, and are the same if they are not fewer different ones. -/
  accepted : ∀ catalog', addForeignKey schema table fk catalog = .ok () catalog' →
    ∃ parent columns key stored, catalog.RefersTo schema fk parent columns ∧ key ∈ parent.keys ∧
      catalog'.Declares schema table stored ∧ stored.name = fk.name ∧
      stored.parentColumns = columns ∧ stored.referencedKey = some key.name ∧
      key.columns.length = columns.length ∧ key.columns ⊆ columns ∧
      (key.IsOver columns ↔ key.columns.toFinset.card = columns.toFinset.card) ∧
      (key.columns.Nodup → key.IsOver columns)
  /-- The foreign key is refused for want of a key exactly if no key of the parent has as many
  columns, all among the parent columns. -/
  refused : ∀ parent columns, catalog.RefersTo schema fk parent columns →
    (addForeignKey schema table fk catalog =
        .error (.referencedKeyNotFound fk.name parent.name) catalog ↔
      ∀ key ∈ parent.keys, ¬(key.columns.length = columns.length ∧ key.columns ⊆ columns))
  /-- Without repeated columns it is refused exactly if no key is over the parent columns. -/
  refused_of_nodup : ∀ parent columns, catalog.RefersTo schema fk parent columns →
    columns.Nodup → (∀ key ∈ parent.keys, key.columns.Nodup) →
    (addForeignKey schema table fk catalog =
        .error (.referencedKeyNotFound fk.name parent.name) catalog ↔
      ∀ key ∈ parent.keys, ¬key.IsOver columns)
  /-- Without repeated columns a table names a key exactly if it has one over the columns. -/
  named_of_nodup : ∀ (parent : Table) columns, columns.Nodup →
    (∀ key ∈ parent.keys, key.columns.Nodup) →
    ((parent.keyOver? columns).isSome = true ↔ ∃ key ∈ parent.keys, key.IsOver columns)

variable {catalog catalog' : Catalog} {schema table : String} {fk : ForeignKey} {parent : Table}
  {columns : List String}

theorem refersTo_of_resolveForeignKey {resolved : ForeignKey}
    (resolution : catalog.resolveForeignKey schema fk = .ok resolved) :
    ∃ parent key, catalog.RefersTo schema fk parent resolved.parentColumns ∧
      parent.keyOver? resolved.parentColumns = some key ∧ resolved.name = fk.name ∧
      resolved.referencedKey = some key := by
  obtain ⟨paired, owner, parent, columns, key, located, found, spelled, covered, rfl⟩ :=
    resolveForeignKey_eq_ok resolution
  have here : catalog.tableIn? (fk.parentSchema.getD schema) fk.parentTable = some parent := by
    rw [tableIn?, located]
    exact found
  exact ⟨parent, key, ⟨paired, here, spelled⟩, covered, rfl, rfl⟩

theorem resolveForeignKey_eq (refers : catalog.RefersTo schema fk parent columns) :
    (parent.keyOver? columns = none ∧ catalog.resolveForeignKey schema fk =
      .error (.referencedKeyNotFound fk.name parent.name)) ∨
    ∃ key resolved, parent.keyOver? columns = some key ∧
      catalog.resolveForeignKey schema fk = .ok resolved := by
  obtain ⟨owner, located, found⟩ := Option.bind_eq_some_iff.mp refers.found
  unfold resolveForeignKey
  rw [if_neg (not_not.mpr refers.paired)]
  simp only [located, found, refers.spelled]
  cases covered : parent.keyOver? columns with
  | none => exact .inl ⟨rfl, rfl⟩
  | some key => exact .inr ⟨key, _, rfl, rfl⟩

theorem onTable_addForeignKey_ne {error : CatalogError}
    (failed : onTable schema table (Table.addForeignKey · fk) catalog = .error error catalog')
    (constraint name : String) : error ≠ .referencedKeyNotFound constraint name := by
  rcases Edit.within_eq_error failed with unfocused | ⟨owner, owner', failed⟩
  · unfold schemaFocus at unfocused
    split at unfocused
    · cases unfocused
      exact nofun
    · split at unfocused
      · cases unfocused
        exact nofun
      · cases unfocused
  · rcases Edit.within_eq_error failed with unfocused | ⟨child, child', failed⟩
    · unfold Schema.tableFocus at unfocused
      split at unfocused
      · cases unfocused
        exact nofun
      · cases unfocused
    · exact Table.addForeignKey_ne failed constraint name

/-- The parent is asked for a key before the table itself is looked up. -/
theorem addForeignKey_eq_referencedKeyNotFound_iff
    (refers : catalog.RefersTo schema fk parent columns) :
    addForeignKey schema table fk catalog =
        .error (.referencedKeyNotFound fk.name parent.name) catalog ↔
      parent.keyOver? columns = none := by
  rcases resolveForeignKey_eq refers with
    ⟨uncovered, refused⟩ | ⟨key, resolved, covered, resolution⟩
  · simp only [addForeignKey, refused, uncovered]
  · simp only [addForeignKey, resolution, covered, reduceCtorEq, iff_false]
    intro failed
    exact onTable_addForeignKey_ne failed fk.name parent.name rfl

/-- A foreign key is added or refused by the columns of the keys of its parent. -/
theorem addForeignKey_addedOverKey (catalog : Catalog) (schema table : String) (fk : ForeignKey) :
    catalog.AddedOverKey schema table fk where
  accepted := by
    intro catalog' ran
    unfold addForeignKey at ran
    split at ran
    · cases ran
    · rename_i resolved resolution
      obtain ⟨parent, name, refers, found, named, references⟩ :=
        refersTo_of_resolveForeignKey resolution
      obtain ⟨key, member, rfl, covered⟩ := Table.exists_of_keyOver? found
      obtain ⟨place, old, new, -, -, kept, edited, -⟩ := onTable_again (β := Unit) ran
      obtain ⟨-, columns, -, rfl⟩ := Table.addForeignKey_eq_ok edited
      obtain ⟨sameLength, among⟩ := Table.covers_iff.mp covered
      have declared : catalog'.Declares schema table { resolved with columns } :=
        ⟨_, kept, List.mem_append_right _ (List.mem_singleton_self _)⟩
      exact ⟨parent, resolved.parentColumns, key, _, refers, member, declared, named, rfl,
        references, sameLength, among, Table.isOver_iff_of_covers covered,
        fun distinct => Table.isOver_of_covers distinct covered⟩
  refused := by
    intro parent columns refers
    rw [addForeignKey_eq_referencedKeyNotFound_iff refers, Table.keyOver?_eq_none_iff]
    simp only [Table.covers_iff]
  refused_of_nodup := by
    intro parent columns refers distinct distinct'
    rw [addForeignKey_eq_referencedKeyNotFound_iff refers,
      Table.keyOver?_eq_none_iff_of_nodup distinct distinct']
  named_of_nodup := by
    intro parent columns distinct distinct'
    rw [Option.isSome_iff_ne_none, ne_eq, Table.keyOver?_eq_none_iff_of_nodup distinct distinct']
    simp only [not_forall, not_not, exists_prop]

/-- A unique key that repeats its only column is referenced by two columns, one of which it does not
have, and not by the one column that it has. -/
theorem addForeignKey_repeated_column :
    let columns : List Column :=
      [{ name := "A", type := .integer }, { name := "B", type := .integer }]
    let key : Key := ⟨"U", ["A", "A"]⟩
    let catalog := (started "C" .insensitive).after
      [.createTable { name := "P", columns }, .addUniqueKey "PUBLIC" "P" key,
        .createTable { name := "C", columns }]
    let fk : ForeignKey :=
      { name := "F", columns := ["A", "B"], parentTable := "P", parentColumns := ["A", "B"] }
    let catalog' := (Operation.addForeignKey "PUBLIC" "C" fk).applyTo catalog
    catalog.Reached (fun _ _ => True) ∧
      (catalog.tableIn? "PUBLIC" "P").map (·.keys) = some [key] ∧
      ¬key.IsOver ["A", "B"] ∧ addForeignKey "PUBLIC" "C" fk catalog = .ok () catalog' ∧
      (catalog'.tableIn? "PUBLIC" "C").map (·.foreignKeys) =
        some [{ fk with parentSchema := some "PUBLIC", referencedKey := some "U" }] ∧
      key.IsOver ["A"] ∧
      addForeignKey "PUBLIC" "C" { fk with columns := ["A"], parentColumns := ["A"] } catalog =
        .error (.referencedKeyNotFound "F" "P") catalog := by
  intro columns key catalog fk catalog'
  have reached : catalog.Reached fun _ _ => True := by
    refine (Reached.start "C" .insensitive).after _ ?_
    simp [Operation.keepsCaseMode]
  have ran : (Operation.addForeignKey "PUBLIC" "C" fk).perform catalog = .ok () catalog' :=
    Operation.perform_of_changed rfl (by decide +kernel)
  have refers : catalog.RefersTo "PUBLIC" { fk with columns := ["A"], parentColumns := ["A"] }
      { name := "P", columns, uniqueKeys := [key] } ["A"] :=
    ⟨rfl, by decide +kernel, by decide +kernel⟩
  exact ⟨reached, by decide +kernel, by decide +kernel, ran, by decide +kernel, by decide +kernel,
    (addForeignKey_eq_referencedKeyNotFound_iff refers).mpr (by decide +kernel)⟩

end Catalog

end CatalogViews
