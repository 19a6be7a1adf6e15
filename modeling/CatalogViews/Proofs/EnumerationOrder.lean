import CatalogViews.Proofs.FoundTables
import CatalogViews.Proofs.TableListing

/-!
# Views do not see in which order a catalog enumerates

A catalog in another order holds the same schemas, tables and synonyms under the same keys
(`Catalog.Reordered`). Lookups then find the same, up to the order within the schemas that they come
with. The views never show the contents of such a schema, so what they work on is compared without
them, as an outline.

A listing gathers the same entries in both catalogs, but in different orders. The rows of an entry
tell its name and that of its schema where the view sorts, and in a reached catalog these names
identify the entry. So the sorted rows are the same, and the rows of one entry keep their order,
since they stand side by side and the sort is stable. With the foreign keys that refer to a table it
is the same, with their children in place of the entries. An exact name in a given schema means at
most one table, so there is nothing left to be ordered.
-/

namespace CatalogViews

structure Metadata.Reordered (m n : Metadata) : Prop where
  catalog : m.catalog.Reordered n.catalog
  settings : m.settings = n.settings
  collation : m.collation = n.collation
  session : m.session = n.session

theorem Metadata.Reordered.refl (m : Metadata) : m.Reordered m where
  catalog := .refl m.catalog
  settings := rfl
  collation := rfl
  session := rfl

theorem Schema.reordered_inNameOrder (schema : Schema) : schema.Reordered schema.inNameOrder where
  name := rfl
  tables _ := (Keyed.find?_sortBy _).symm
  synonyms _ := (Keyed.find?_sortBy _).symm

theorem Catalog.reordered_inNameOrder (catalog : Catalog) :
    catalog.Reordered catalog.inNameOrder where
  name := rfl
  caseMode := rfl
  schemas key := by
    rw [inNameOrder, Keyed.find?_sortBy, Keyed.find?_mapValues]
    cases catalog.schemas.find? key with
    | none => exact .none
    | some schema => exact .some schema.reordered_inNameOrder

theorem Catalog.pairwise_inNameOrder (catalog : Catalog) :
    (catalog.inNameOrder.schemas.values.map (·.name)).Pairwise fun a b =>
      (Text.compareText a b).isLE = true := by
  rw [inNameOrder, Keyed.values, Keyed.sortBy, List.pairwise_map, List.pairwise_map]
  apply List.pairwise_mergeSort
  · intro a b c before after
    exact Std.TransCmp.isLE_trans before after
  · intro a b
    exact isLE_total Text.compareText a.2.name b.2.name

/-- A schema without what it contains. -/
def Schema.outline (schema : Schema) : Schema :=
  .empty schema.name

def Located.outline (located : Located) : Located :=
  { located with schema := located.schema.outline }

/-- The names of the schema and of the table. -/
def Located.names (located : Located) : String × String :=
  (located.schema.name, located.table.name)

namespace Metadata

/-- A listed entry without what its schema contains. -/
def outlineEntry (listed : Schema × Entry) : Schema × Entry :=
  (listed.1.outline, listed.2)

def Reference.outline (r : Reference) : Reference :=
  ⟨r.parent.outline, r.child.outline, r.fk⟩

/-- The metadata without the schemas and the settings of the catalog that no view shows. -/
def outline (m : Metadata) : Metadata :=
  { m with catalog := { Catalog.named m.catalog.name with caseMode := m.catalog.caseMode } }

end Metadata

theorem Schema.Reordered.outline_eq {schema other : Schema} (same : schema.Reordered other) :
    schema.outline = other.outline :=
  congrArg Schema.empty same.name

theorem map_bind_of_rel {α β γ δ : Type} {relation : α → β → Prop} {a : Option α} {b : Option β}
    {f : α → Option γ} {g : β → Option γ} {view : γ → δ} (related : Option.Rel relation a b)
    (agree : ∀ x y, relation x y → (f x).map view = (g y).map view) :
    (a.bind f).map view = (b.bind g).map view := by
  cases related with
  | none => rfl
  | some here => exact agree _ _ here

namespace Catalog.Reordered

variable {catalog other : Catalog} (same : catalog.Reordered other) (h : catalog.WellNamed)

include same h

theorem schema?_rel (name : String) :
    Option.Rel Schema.Reordered (catalog.schema? name) (other.schema? name) := by
  have keys (key : String) : key ∈ other.schemas.keys ↔ key ∈ catalog.schemas.keys :=
    (Keyed.mem_keys_congr same.schemas key).symm
  rw [Catalog.schema?, Catalog.schema?, h.schemaKey?_congr same.caseMode.symm keys]
  cases catalog.schemaKey? name with
  | none => exact .none
  | some key => exact same.schemas key

theorem target?_outline (synonym : Synonym) :
    (catalog.target? synonym).map Located.outline =
      (other.target? synonym).map Located.outline := by
  apply map_bind_of_rel (same.schema?_rel h synonym.targetSchema)
  intro schema schema' reordered
  rw [Schema.table?, Schema.table?, same.caseMode, reordered.tables]
  cases schema'.tables.find? (other.caseMode.key synonym.targetTable) with
  | none => rfl
  | some table => simp [Located.outline, reordered.outline_eq]

theorem findTable?_outline {schema schema' : Schema} (reordered : schema.Reordered schema')
    (name : String) :
    (catalog.findTable? schema name).map Located.outline =
      (other.findTable? schema' name).map Located.outline := by
  rw [Catalog.findTable?, Catalog.findTable?, Schema.table?, Schema.table?, Schema.synonym?,
    Schema.synonym?, same.caseMode, reordered.tables, reordered.synonyms]
  cases schema'.tables.find? (other.caseMode.key name) with
  | some table => simp [Located.outline, reordered.outline_eq]
  | none =>
    cases schema'.synonyms.find? (other.caseMode.key name) with
    | none => rfl
    | some synonym => exact same.target?_outline h synonym

theorem findTableIn?_outline (schema name : String) :
    (catalog.findTableIn? schema name).map Located.outline =
      (other.findTableIn? schema name).map Located.outline := by
  apply map_bind_of_rel (same.schema?_rel h schema)
  intro owner owner' reordered
  exact same.findTable?_outline h reordered name

end Catalog.Reordered

theorem flatMap_filter {α β : Type} (f : α → List β) (p : α → Bool) (l : List α) :
    (l.filter p).flatMap f = l.flatMap fun a => if p a then f a else [] := by
  induction l with
  | nil => rfl
  | cons a l ih =>
    rw [List.filter_cons, List.flatMap_cons, ← ih]
    split
    · rw [List.flatMap_cons]
    · rfl

namespace Catalog.Reordered

variable {catalog other : Catalog} (same : catalog.Reordered other)
  {pattern : Option LikePattern}

include same

theorem perm_flatMap_schemasLike {β : Type} {f g : Schema → List β}
    (agree : ∀ schema schema', schema.Reordered schema' → (f schema).Perm (g schema')) :
    ((catalog.schemasLike pattern).flatMap f).Perm ((other.schemasLike pattern).flatMap g) := by
  cases pattern with
  | none => exact Keyed.perm_flatMap_values same.schemas agree
  | some p =>
    rw [schemasLike, schemasLike]
    split
    · exact Keyed.perm_flatMap_toList (same.schemas mainSchemaName) agree
    · rw [flatMap_filter, flatMap_filter]
      apply Keyed.perm_flatMap_values same.schemas
      intro schema schema' reordered
      rw [reordered.name]
      split
      · exact agree _ _ reordered
      · exact .refl _

theorem perm_entries (h : catalog.WellNamed) {schema schema' : Schema}
    (reordered : schema.Reordered schema') :
    (catalog.entries schema pattern).Perm (other.entries schema' pattern) := by
  have tables : schema.tables.values.Perm schema'.tables.values :=
    (Keyed.entries_perm reordered.tables).map _
  have synonyms : schema.synonyms.values.Perm schema'.synonyms.values :=
    (Keyed.entries_perm reordered.synonyms).map _
  have targets (synonym : Synonym) :
      (catalog.target? synonym).map (fun found => Entry.synonym synonym found.table) =
        (other.target? synonym).map fun found => .synonym synonym found.table := by
    have outlines := same.target?_outline h synonym
    have tables := congrArg (Option.map fun found => Entry.synonym synonym found.table) outlines
    rw [Option.map_map, Option.map_map] at tables
    exact tables
  simp only [entries, targets]
  exact ((tables.filter _).map _).append ((synonyms.filter _).filterMap _)

end Catalog.Reordered

namespace Metadata.Reordered

variable {m n : Metadata} (same : m.Reordered n)

include same

theorem outline_eq : m.outline = n.outline := by
  simp only [Metadata.outline, same.catalog.name, same.catalog.caseMode, same.settings,
    same.collation, same.session]

theorem checkOpen_eq : m.checkOpen = n.checkOpen :=
  congrArg (·.checkOpen) same.outline_eq

theorem isSelectedBy_eq : m.catalog.isSelectedBy = n.catalog.isSelectedBy :=
  congrArg (·.catalog.isSelectedBy) same.outline_eq

theorem like?_eq : m.like? = n.like? :=
  congrArg (·.like?) same.outline_eq

theorem listSchemas_eq : m.listSchemas = n.listSchemas := by
  funext catalog schema
  have sorted (pattern : Option LikePattern) :
      n.collation.sort ((m.catalog.schemasLike pattern).map (·.name)) =
        n.collation.sort ((n.catalog.schemasLike pattern).map (·.name)) := by
    have names : ((m.catalog.schemasLike pattern).map (·.name)).Perm
        ((n.catalog.schemasLike pattern).map (·.name)) := by
      rw [List.map_eq_flatMap, List.map_eq_flatMap]
      apply same.catalog.perm_flatMap_schemasLike
      intro schema schema' reordered
      rw [reordered.name]
    exact n.collation.sort_eq_of_perm names
  simp only [Metadata.listSchemas, same.checkOpen_eq, same.isSelectedBy_eq, same.like?_eq, sorted,
    same.collation, catalogCell, same.catalog.name]

variable (h : m.catalog.WellNamed)

include h

theorem perm_listed (schemaLike tableLike : Option LikePattern) :
    ((m.listed schemaLike tableLike).map outlineEntry).Perm
      ((n.listed schemaLike tableLike).map outlineEntry) := by
  rw [Metadata.listed, Metadata.listed, List.map_flatMap, List.map_flatMap]
  apply same.catalog.perm_flatMap_schemasLike
  intro schema schema' reordered
  simp only [List.map_map, Function.comp_def, outlineEntry, reordered.outline_eq]
  exact ((same.catalog.perm_entries h reordered).filter _).map _

theorem perm_tableEntries (schemaLike tableLike : Option LikePattern)
    (accepted : Option (List String)) :
    ((m.tableEntries schemaLike tableLike accepted).map outlineEntry).Perm
      ((n.tableEntries schemaLike tableLike accepted).map outlineEntry) := by
  have filtered := (same.perm_listed h schemaLike tableLike).filter fun p =>
    accepted.all (·.contains (entryType p.2))
  rw [List.filter_map, List.filter_map] at filtered
  exact filtered

omit h in
/-- Rows for listed entries that are sorted by the names of the entries and of their schemas, and
perhaps by more. -/
theorem sort_entries {l l' : List (Schema × Entry)}
    (perm : (l.map outlineEntry).Perm (l'.map outlineEntry))
    (distinct : (l.map fun p => (p.1.name, p.2.name)).Nodup)
    (rows : Metadata → Schema × Entry → List Row)
    (sees : ∀ m p, rows m p = rows m.outline (outlineEntry p))
    (tells : ∀ m p, ∀ row ∈ rows m p,
      row[1]? = some (.varchar p.1.name) ∧ row[2]? = some (.varchar p.2.name))
    {positions : List Nat} (looked : 1 ∈ positions ∧ 2 ∈ positions) :
    (l.flatMap (rows m)).mergeSort (m.collation.rowLE positions) =
      (l'.flatMap (rows n)).mergeSort (n.collation.rowLE positions) := by
  have seen (m : Metadata) (l : List (Schema × Entry)) :
      l.flatMap (rows m) = (l.map outlineEntry).flatMap (rows m.outline) := by
    rw [List.flatMap_map]
    exact List.flatMap_congr fun p _ => sees m p
  have outlined : ((l.map outlineEntry).map fun p => (p.1.name, p.2.name)).Nodup := by
    rw [List.map_map]
    exact distinct
  have identify := List.inj_on_of_nodup_map outlined
  rw [seen m, seen n, same.outline_eq, same.collation]
  apply n.collation.mergeSort_blocks (fun p : Schema × Entry => (p.1.name, p.2.name)) looked
    (tells n.outline) perm
  intro x inList y inList' names
  exact identify inList inList' names

theorem tables_eq : m.tables = n.tables := by
  funext catalog schema table types
  have sorted (schemaLike tableLike : Option LikePattern) (accepted : Option (List String)) :
      ((m.catalog.schemasLike schemaLike).flatMap (m.tableRows tableLike accepted)).mergeSort
          (m.collation.rowLE tablesOrder) =
        ((n.catalog.schemasLike schemaLike).flatMap (n.tableRows tableLike accepted)).mergeSort
          (n.collation.rowLE tablesOrder) := by
    rw [flatMap_tableRows, flatMap_tableRows, List.map_eq_flatMap, List.map_eq_flatMap]
    apply same.sort_entries (same.perm_tableEntries h schemaLike tableLike accepted)
      (nodup_tableEntries_names h) (fun m p => [m.tableRow p.1 p.2]) (fun _ _ => rfl)
    · intro m p row member
      rw [List.mem_singleton.mp member]
      exact ⟨rfl, rfl⟩
    · decide
  simp only [Metadata.tables, same.checkOpen_eq, same.isSelectedBy_eq, same.like?_eq,
    ResultTable.sortRows, sorted]

theorem columns_eq : m.columns = n.columns := by
  funext catalog schema table column
  have sorted (schemaLike tableLike columnLike : Option LikePattern) :
      ((m.listed schemaLike tableLike).flatMap fun p =>
          m.entryColumnRows columnLike p.1 p.2).mergeSort (m.collation.rowLE columnsOrder) =
        ((n.listed schemaLike tableLike).flatMap fun p =>
          n.entryColumnRows columnLike p.1 p.2).mergeSort (n.collation.rowLE columnsOrder) := by
    apply same.sort_entries (same.perm_listed h schemaLike tableLike) (nodup_listed_names h)
      (fun m p => m.entryColumnRows columnLike p.1 p.2) (fun _ _ => rfl)
    · intro m p row member
      obtain ⟨_, -, rfl⟩ := List.mem_map.mp member
      exact ⟨rfl, rfl⟩
    · decide
  simp only [Metadata.columns, same.checkOpen_eq, same.isSelectedBy_eq, same.like?_eq,
    flatMap_entryColumnRows, ResultTable.sortRows, sorted]

end Metadata.Reordered

namespace Metadata

theorem map_outline_findTables (m : Metadata) (schema : Option String) (table : String) :
    (m.findTables schema table).map Located.outline =
      (m.catalog.schemasNamed schema).flatMap fun owner =>
        ((m.catalog.findTable? owner table).map Located.outline).toList.filter
          (!·.table.hidden) := by
  rw [findTables, List.filterMap_eq_flatMap_toList, List.filter_flatMap, List.map_flatMap]
  apply List.flatMap_congr
  intro owner _
  rw [Option.toList_map, List.filter_map]
  rfl

theorem referenceTable_outline (m : Metadata) (references : List Reference) (order : List Nat) :
    m.referenceTable references order =
      m.outline.referenceTable (references.map Reference.outline) order := by
  rw [referenceTable, referenceTable, List.mapM_map]
  rfl

theorem map_outline_flatMap {taken outlines : Located → List Reference}
    (agree : ∀ child, (taken child).map Reference.outline = outlines child.outline)
    (children : List Located) :
    (children.flatMap taken).map Reference.outline =
      (children.map Located.outline).flatMap outlines := by
  rw [List.map_flatMap, List.flatMap_map]
  exact List.flatMap_congr fun child _ => agree child

/-- The references to a table with the table put in as their parent. -/
theorem map_outline_redirected (references : List Reference) (parent : Located) :
    ((references.filter (·.parent.sameAs parent)).map ({ · with parent })).map Reference.outline =
      ((references.map Reference.outline).filter (·.parent.sameAs parent.outline)).map
        ({ · with parent := parent.outline }) := by
  rw [List.filter_map, List.map_map, List.map_map]
  rfl

theorem map_outline_selected (m : Metadata) (references : List Reference)
    (schema : Option String) (table : String) :
    (references.filter fun r => m.catalog.sameIdentifier r.parent.table.name table &&
        m.selectsSchema schema r.parent.schema).map Reference.outline =
      (references.map Reference.outline).filter fun r =>
        m.outline.catalog.sameIdentifier r.parent.table.name table &&
          m.outline.selectsSchema schema r.parent.schema := by
  rw [List.filter_map]
  rfl

end Metadata

namespace Metadata.Reordered

variable {m n : Metadata} (same : m.Reordered n) (h : m.catalog.WellNamed)

include same h

theorem perm_findTables (schema : Option String) (table : String) :
    ((m.findTables schema table).map Located.outline).Perm
      ((n.findTables schema table).map Located.outline) := by
  rw [map_outline_findTables, map_outline_findTables]
  have agree (owner owner' : Schema) (reordered : owner.Reordered owner') :
      (((m.catalog.findTable? owner table).map Located.outline).toList.filter
          (!·.table.hidden)).Perm
        (((n.catalog.findTable? owner' table).map Located.outline).toList.filter
          (!·.table.hidden)) := by
    rw [same.catalog.findTable?_outline h reordered]
  cases schema with
  | none => exact Keyed.perm_flatMap_values same.catalog.schemas agree
  | some name =>
    rw [Catalog.schemasNamed, Catalog.schemasNamed]
    split
    · exact Keyed.perm_flatMap_toList (same.catalog.schemas mainSchemaName) agree
    · exact Keyed.perm_flatMap_toList (same.catalog.schema?_rel h name) agree

/-- In a given schema an exact name means the same table, if any. -/
theorem findTables_some (schema table : String) :
    ∃ found found', m.findTables (some schema) table = found.toList ∧
      n.findTables (some schema) table = found'.toList ∧
      Option.Rel (fun a b => a.outline = b.outline) found found' := by
  obtain ⟨found, here⟩ := m.findTables_eq_toList schema table
  obtain ⟨found', there⟩ := n.findTables_eq_toList schema table
  have perm := same.perm_findTables h (some schema) table
  rw [here, there] at perm
  refine ⟨found, found', here, there, ?_⟩
  have length := perm.length_eq
  cases found with
  | none =>
    cases found' with
    | none => exact .none
    | some other => cases length
  | some located =>
    cases found' with
    | none => cases length
    | some other => exact .some (List.singleton_perm_singleton.mp perm)

theorem parentOf?_outline (owner : Schema) (fk : ForeignKey) :
    (m.parentOf? owner.outline fk).map Located.outline =
      (n.parentOf? owner fk).map Located.outline :=
  same.catalog.findTableIn?_outline h (fk.parentSchema.getD owner.name) fk.parentTable

theorem referencesOf_outline (child : Located) :
    (m.referencesOf child.outline).map Reference.outline =
      (n.referencesOf child).map Reference.outline := by
  rw [Metadata.referencesOf, Metadata.referencesOf, List.map_filterMap, List.map_filterMap]
  apply List.filterMap_congr
  intro fk _
  have parents := congrArg (Option.map fun parent => Reference.mk parent child.outline fk)
    (same.parentOf?_outline h child.schema fk)
  rw [Option.map_map, Option.map_map] at parents ⊢
  exact parents

omit h in
theorem perm_visibleTables :
    (m.visibleTables.map Located.outline).Perm (n.visibleTables.map Located.outline) := by
  rw [visibleTables, visibleTables, List.map_flatMap, List.map_flatMap]
  apply Keyed.perm_flatMap_values same.catalog.schemas
  intro schema schema' reordered
  simp only [List.map_map, Function.comp_def, Located.outline, reordered.outline_eq]
  exact ((Keyed.entries_perm reordered.tables).filter _).map _

/-- References that are taken from different children and sorted by the child. -/
theorem referenceTable_children {children children' : List Located}
    (perm : (children.map Located.outline).Perm (children'.map Located.outline))
    (kept : ∀ child ∈ children, child.Kept m.catalog)
    {taken taken' : Located → List Reference} (outlines : Located → List Reference)
    (here : ∀ child, (taken child).map Reference.outline = outlines child.outline)
    (there : ∀ child, (taken' child).map Reference.outline = outlines child.outline)
    (ofChild : ∀ child, ∀ r ∈ outlines child, r.child = child.outline) :
    m.referenceTable (children.flatMap taken) exportedKeysOrder =
      n.referenceTable (children'.flatMap taken') exportedKeysOrder := by
  have identify : ∀ x ∈ children.map Located.outline, ∀ y ∈ children.map Located.outline,
      x.names = y.names → x = y := by
    intro x inList y inList' same
    obtain ⟨child, listed, rfl⟩ := List.mem_map.mp inList
    obtain ⟨other, listed', rfl⟩ := List.mem_map.mp inList'
    have equal := (kept child listed).eq_of_names (kept other listed') h
      (congrArg (m.catalog.caseMode.key ·.1) same) (congrArg (m.catalog.caseMode.key ·.2) same)
    rw [equal]
  have tells : ∀ child, ∀ row ∈ (outlines child).flatMap n.outline.referenceRows,
      row[5]? = some (.varchar child.names.1) ∧ row[6]? = some (.varchar child.names.2) := by
    intro child row member
    obtain ⟨r, taken, ofReference⟩ := List.mem_flatMap.mp member
    have told : r.child.names = child.names := by
      rw [ofChild child r taken]
      rfl
    have cells := tellsTables_of_mem ofReference
    rw [← told]
    exact ⟨cells.childSchema, cells.childTable⟩
  have members (r : Reference) : r ∈ (children.map Located.outline).flatMap outlines ↔
      r ∈ (children'.map Located.outline).flatMap outlines :=
    (perm.flatMap_right outlines).mem_iff
  have looked : 5 ∈ exportedKeysOrder ∧ 6 ∈ exportedKeysOrder := by decide
  have sorted := n.outline.collation.mergeSort_blocks Located.names looked tells perm identify
  rw [referenceTable_outline m, referenceTable_outline n, same.outline_eq,
    map_outline_flatMap here, map_outline_flatMap there, referenceTable_eq, referenceTable_eq]
  simp only [members, ResultTable.sortRows, List.flatMap_assoc, sorted]

/-- The references to one table come child by child. -/
theorem referenceTable_redirected (parent : Located) :
    m.referenceTable (((m.visibleTables.flatMap m.referencesOf).filter
        (·.parent.sameAs parent.outline)).map ({ · with parent := parent.outline }))
          exportedKeysOrder =
      n.referenceTable (((n.visibleTables.flatMap n.referencesOf).filter
        (·.parent.sameAs parent)).map ({ · with parent })) exportedKeysOrder := by
  simp only [List.filter_flatMap, List.map_flatMap]
  apply same.referenceTable_children h same.perm_visibleTables
    (fun child listed => (mem_visibleTables_iff.mp listed).1)
    fun child => (((m.referencesOf child).map Reference.outline).filter
      (·.parent.sameAs parent.outline)).map ({ · with parent := parent.outline })
  · intro child
    rw [map_outline_redirected, (Reordered.refl m).referencesOf_outline h]
    rfl
  · intro child
    rw [map_outline_redirected, same.referencesOf_outline h]
  · intro child r member
    obtain ⟨_, selected, rfl⟩ := List.mem_map.mp member
    obtain ⟨r, declared, rfl⟩ := List.mem_map.mp (List.mem_of_mem_filter selected)
    rw [← (mem_referencesOf_iff.mp declared).2.1]
    rfl

theorem crossReference_eq : m.crossReference = n.crossReference := by
  funext primaryCatalog primarySchema primaryTable catalog schema table
  have answered (primaryTable table : String) :
      m.referenceTable (((m.findTables schema table).flatMap m.referencesOf).filter fun r =>
          m.catalog.sameIdentifier r.parent.table.name primaryTable &&
            m.selectsSchema primarySchema r.parent.schema) exportedKeysOrder =
        n.referenceTable (((n.findTables schema table).flatMap n.referencesOf).filter fun r =>
          n.catalog.sameIdentifier r.parent.table.name primaryTable &&
            n.selectsSchema primarySchema r.parent.schema) exportedKeysOrder := by
    rw [List.filter_flatMap, List.filter_flatMap]
    apply same.referenceTable_children h (same.perm_findTables h schema table)
      (fun child found => kept_of_mem_findTables h found)
      fun child => ((m.referencesOf child).map Reference.outline).filter fun r =>
        m.outline.catalog.sameIdentifier r.parent.table.name primaryTable &&
          m.outline.selectsSchema primarySchema r.parent.schema
    · intro child
      rw [map_outline_selected, (Reordered.refl m).referencesOf_outline h]
    · intro child
      rw [map_outline_selected, same.referencesOf_outline h, same.outline_eq]
    · intro child r member
      obtain ⟨r, declared, rfl⟩ := List.mem_map.mp (List.mem_of_mem_filter member)
      rw [← (mem_referencesOf_iff.mp declared).2.1]
      rfl
  simp only [Metadata.crossReference, same.checkOpen_eq, same.isSelectedBy_eq, answered]

end Metadata.Reordered

namespace TableView

open Metadata

variable {m n : Metadata} {view : TableView} {catalog schema table : Option String}

/-- What a view answers for one table depends neither on the enumeration nor on what else is in the
schema of the table. -/
theorem answerFor_outline (same : m.Reordered n) (h : m.catalog.WellNamed) (view : TableView)
    (located : Located) :
    view.answerFor m [located.outline] = view.answerFor n [located] := by
  have outlines : m.outline = n.outline := same.outline_eq
  have references := same.referencesOf_outline h located
  have ofRows (view : TableView) (none : ∀ m located, view.referencesFor m located = [])
      (sees : ∀ m located, view.foundRows m located = view.foundRows m.outline located.outline) :
      view.answerFor m [located.outline] = view.answerFor n [located] := by
    rw [answerFor_of_no_references (none m), answerFor_of_no_references (none n),
      List.flatMap_singleton, List.flatMap_singleton, sees m, sees n, outlines, same.collation]
    rfl
  cases view with
  | primaryKeys => exact ofRows _ (fun _ _ => rfl) fun _ _ => rfl
  | bestRow => exact ofRows _ (fun _ _ => rfl) fun _ _ => rfl
  | indexInfo unique approximate => exact ofRows _ (fun _ _ => rfl) fun _ _ => rfl
  | importedKeys =>
    rw [answerFor_of_references (fun _ => rfl) rfl, answerFor_of_references (fun _ => rfl) rfl,
      List.flatMap_singleton, List.flatMap_singleton, referenceTable_outline m,
      referenceTable_outline n, outlines, referencesFor, referencesFor, references]
  | exportedKeys =>
    rw [answerFor_of_references (fun _ => rfl) rfl, answerFor_of_references (fun _ => rfl) rfl,
      List.flatMap_singleton, List.flatMap_singleton]
    exact same.referenceTable_redirected h located
  | crossReference primaryCatalog primarySchema primaryTable =>
    cases primaryTable with
    | none => exact ofRows _ (fun _ _ => rfl) fun _ _ => rfl
    | some primaryTable =>
      rw [answerFor_of_references (fun _ => rfl) rfl, answerFor_of_references (fun _ => rfl) rfl,
        List.flatMap_singleton, List.flatMap_singleton, referenceTable_outline m,
        referenceTable_outline n, outlines, referencesFor, referencesFor, map_outline_selected,
        map_outline_selected, outlines, references]

theorem answerFor_nil : view.answerFor m [] = .ok (.empty view.columns) := by
  rw [answerFor, if_pos (List.forall_mem_nil _), List.flatMap_nil, ResultTable.sortRows,
    List.mergeSort_nil]
  rfl

theorem selects_eq (same : m.Reordered n) : view.selects m catalog = view.selects n catalog := by
  cases view with
  | crossReference => simp only [selects, same.isSelectedBy_eq]
  | _ => exact congrArg (· catalog) same.isSelectedBy_eq

/-- A call that lacks an argument fails in all catalogs. -/
theorem ask_of_incomplete (m n : Metadata) (lacks : view.isComplete = false ∨ table = none) :
    view.ask m catalog schema table = view.ask n catalog schema table := by
  cases view with
  | crossReference primaryCatalog primarySchema primaryTable =>
    cases primaryTable with
    | none => rfl
    | some primaryTable =>
      rw [lacks.resolve_left nofun]
      rfl
  | _ =>
    rw [lacks.resolve_left nofun]
    rfl

/-- In two catalogs in different orders, answers differ at most in what is found. -/
theorem ask_rel (same : m.Reordered n)
    {relation : Except ViewError ResultTable → Except ViewError ResultTable → Prop}
    (refl : ∀ answer, relation answer answer)
    (answers : m.session.closed = false → view.selects m catalog = true →
      ∀ name, table = some name →
        relation (view.answerFor m (m.findTables schema name))
          (view.answerFor n (n.findTables schema name))) :
    relation (view.ask m catalog schema table) (view.ask n catalog schema table) := by
  by_cases lacks : view.isComplete = false ∨ table = none
  · rw [ask_of_incomplete m n lacks]
    exact refl _
  · rw [not_or, Bool.not_eq_false] at lacks
    obtain ⟨name, rfl⟩ := Option.ne_none_iff_exists'.mp lacks.2
    rw [ask_eq lacks.1, ask_eq lacks.1, ← same.checkOpen_eq, ← selects_eq same, checkOpen]
    cases opened : m.session.closed with
    | true => exact refl _
    | false =>
      cases selected : view.selects m catalog with
      | false => exact refl _
      | true => exact answers opened selected name rfl

end TableView

namespace Metadata

/-- The same answers: to all calls of the listing views and of the cross reference, and to the calls
of the views of an exactly named table that give a schema. -/
structure SameViews (m n : Metadata) : Prop where
  listSchemas : m.listSchemas = n.listSchemas
  tables : m.tables = n.tables
  columns : m.columns = n.columns
  crossReference : m.crossReference = n.crossReference
  ask : ∀ (view : TableView) (catalog table : Option String) (schema : String),
    view.ask m catalog (some schema) table = view.ask n catalog (some schema) table

variable {m n : Metadata}

theorem Reordered.ask_eq (same : m.Reordered n) (h : m.catalog.WellNamed) (view : TableView)
    (catalog table : Option String) (schema : String) :
    view.ask m catalog (some schema) table = view.ask n catalog (some schema) table := by
  apply TableView.ask_rel same (fun _ => rfl)
  intro _ _ name _
  obtain ⟨found, found', here, there, alike⟩ := same.findTables_some h schema name
  rw [here, there]
  cases alike with
  | none => rw [Option.toList_none, TableView.answerFor_nil, TableView.answerFor_nil]
  | @some located located' alike =>
    rw [Option.toList_some, Option.toList_some,
      ← TableView.answerFor_outline (.refl m) h view located, alike,
      TableView.answerFor_outline same h view located']

theorem Reordered.sameViews (same : m.Reordered n) (h : m.catalog.WellNamed) : SameViews m n where
  listSchemas := same.listSchemas_eq
  tables := same.tables_eq h
  columns := same.columns_eq h
  crossReference := same.crossReference_eq h
  ask := same.ask_eq h

/-- In whatever orders a reached catalog is enumerated, the views give the same answers, row by row
and failures included. -/
theorem sameViews_of_reordered (reached : m.catalog.Reached fun _ _ => True)
    {first second : Metadata} (reordered : m.Reordered first) (reordered' : m.Reordered second) :
    SameViews first second := by
  have here := reordered.sameViews reached.wellNamed
  have there := reordered'.sameViews reached.wellNamed
  constructor
  · exact here.listSchemas.symm.trans there.listSchemas
  · exact here.tables.symm.trans there.tables
  · exact here.columns.symm.trans there.columns
  · exact here.crossReference.symm.trans there.crossReference
  · intro view catalog table schema
    exact (here.ask view catalog table schema).symm.trans (there.ask view catalog table schema)

/-- A catalog in the order of its history and in the order of the names. -/
theorem sameViews_of_name_order :
    let table (name : String) : Table := { name, columns := [{ name := "A", type := .integer }] }
    let catalog := (Catalog.started "C" .insensitive).after
      [.createSchema "S", .createSchema "B", .createTableIn "S" (table "T"),
        .createTableIn "S" (table "P"), .setPrimaryKey "S" "P" ⟨"K", ["A"]⟩,
        .addForeignKey "S" "T" {
          name := "F", columns := ["A"], parentTable := "P", parentColumns := ["A"] },
        .createSynonym "B" ⟨"Y", "S", "P"⟩, .createSynonym "B" ⟨"X", "S", "T"⟩]
    catalog.inNameOrder.schemas.values.map (·.name) ≠ catalog.schemas.values.map (·.name) ∧
      SameViews (.ofCatalog catalog {} {}) (.ofCatalog catalog.inNameOrder {} {}) := by
  intro table catalog
  have reached : catalog.Reached fun _ _ => True := by
    refine (Catalog.Reached.start "C" .insensitive).after _ ?_
    simp [Operation.keepsCaseMode]
  have views (catalog : Catalog) (reached : catalog.Reached fun _ _ => True) :
      SameViews (.ofCatalog catalog {} {}) (.ofCatalog catalog.inNameOrder {} {}) :=
    sameViews_of_reordered (m := .ofCatalog catalog {} {}) reached (.refl _)
      ⟨catalog.reordered_inNameOrder, rfl, rfl, rfl⟩
  refine ⟨?_, views catalog reached⟩
  intro same
  have increasing := catalog.pairwise_inNameOrder
  rw [same] at increasing
  revert increasing
  decide +kernel

end Metadata

end CatalogViews
