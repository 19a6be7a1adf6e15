import CatalogViews.Proofs.ExactViews
import CatalogViews.Proofs.StableSort

/-!
# The views on foreign keys agree

Three views tell which foreign keys of one table reference another: the imported keys of the child,
the exported keys of the parent, and the cross reference of the two. They look for the references in
three ways. The first starts from the child and takes every parent; the second goes through all
visible tables and asks whether the parent is the table in question; the third starts from the child
and compares the names of the parent. In a reached catalog all three select the references between
the two tables (`Metadata.referencesBetween`), in the order in which the child declares them.

The imported keys are sorted by the parent and the other two by the child. Among the rows for one
parent and one child this makes no difference, for only the place in the key is left to compare.
-/

namespace CatalogViews.Metadata

variable {m : Metadata} {parent child : Located}

/-- The references from one table to another, as the child declares them. -/
def referencesBetween (m : Metadata) (parent child : Located) : List Reference :=
  (m.referencesOf child).filter (·.parent.sameAs parent)

/-- A column in which all rows of a reference have the same text selects references by it. -/
theorem restrict_references {references : List Reference} {name value : String} {position : Nat}
    {text : Reference → String}
    (column : (ResultTable.empty foreignKeysColumns).columnIndex? name = some position)
    (common : ∀ r row, m.TellsTables r row → row[position]? = some (.varchar (text r))) :
    (ResultTable.mk foreignKeysColumns (references.flatMap m.referenceRows)).restrict name
        (.varchar value) =
      .mk foreignKeysColumns
        ((references.filter (text · == value)).flatMap m.referenceRows) := by
  have same : (ResultTable.mk foreignKeysColumns
      (references.flatMap m.referenceRows)).columnIndex? name = some position := column
  rw [ResultTable.restrict, ResultTable.mk.injEq]
  refine ⟨rfl, filter_flatMap_of_forall fun r _ row member => ?_⟩
  rw [same, Option.any_some, common r row (tellsTables_of_mem member)]
  simp

/-- The rows for a parent are those of the references to it. -/
theorem restrict_parent (references : List Reference) (schema table : String) :
    ((ResultTable.mk foreignKeysColumns (references.flatMap m.referenceRows)).restrict
        "PKTABLE_SCHEM" (.varchar schema)).restrict "PKTABLE_NAME" (.varchar table) =
      .mk foreignKeysColumns ((references.filter fun r =>
        r.parent.table.name == table && r.parent.schema.name == schema).flatMap
          m.referenceRows) := by
  rw [restrict_references (by decide) fun _ _ tells => tells.parentSchema,
    restrict_references (by decide) fun _ _ tells => tells.parentTable, List.filter_filter]

/-- The rows for a child are those of its references. -/
theorem restrict_child (references : List Reference) (schema table : String) :
    ((ResultTable.mk foreignKeysColumns (references.flatMap m.referenceRows)).restrict
        "FKTABLE_SCHEM" (.varchar schema)).restrict "FKTABLE_NAME" (.varchar table) =
      .mk foreignKeysColumns ((references.filter fun r =>
        r.child.table.name == table && r.child.schema.name == schema).flatMap
          m.referenceRows) := by
  rw [restrict_references (by decide) fun _ _ tells => tells.childSchema,
    restrict_references (by decide) fun _ _ tells => tells.childTable, List.filter_filter]

section

variable (h : m.catalog.WellNamed) (keptParent : parent.Kept m.catalog)

include h

/-- A parent is the table in question if its names are. -/
theorem sameAs_eq_names {located other : Located} (kept : located.Kept m.catalog)
    (kept' : other.Kept m.catalog) :
    located.sameAs other =
      (located.table.name == other.table.name && located.schema.name == other.schema.name) := by
  rw [Bool.eq_iff_iff, kept.sameAs_iff kept' h, Bool.and_eq_true, beq_iff_eq, beq_iff_eq]
  constructor
  · rintro rfl
    exact ⟨rfl, rfl⟩
  · rintro ⟨sameTable, sameSchema⟩
    exact kept.eq_of_names kept' h (congrArg _ sameSchema) (congrArg _ sameTable)

theorem filter_exported (keptChild : child.Kept m.catalog) (visible : child.table.hidden = false) :
    (m.referencesTo parent).filter (fun r =>
        r.child.table.name == child.table.name && r.child.schema.name == child.schema.name) =
      m.referencesBetween parent child := by
  have whole : (m.visibleTables.flatMap m.referencesOf).filter (fun r =>
      r.child.table.name == child.table.name && r.child.schema.name == child.schema.name) =
      (m.visibleTables.filter (· == child)).flatMap m.referencesOf := by
    refine filter_flatMap_of_forall fun other listed r member => ?_
    have kept : other.Kept m.catalog := (mem_visibleTables_iff.mp listed).1
    rw [(mem_referencesOf_iff.mp member).2.1, ← sameAs_eq_names h kept keptChild,
      Bool.eq_iff_iff, kept.sameAs_iff keptChild h, beq_iff_eq]
  have alone : m.visibleTables.filter (· == child) = [child] := by
    rw [List.filter_beq, List.count_eq_one_of_mem (nodup_visibleTables h)
      (mem_visibleTables_iff.mpr ⟨keptChild, visible⟩), List.replicate_one]
  calc (m.referencesTo parent).filter _
      = ((m.visibleTables.flatMap m.referencesOf).filter fun r =>
          r.child.table.name == child.table.name && r.child.schema.name == child.schema.name).filter
            (·.parent.sameAs parent) := by
        simp only [referencesTo, List.filter_filter, Bool.and_comm]
    _ = m.referencesBetween parent child := by
        rw [whole, alone, List.flatMap_singleton, referencesBetween]

include keptParent

theorem filter_imported :
    (m.referencesOf child).filter (fun r =>
        r.parent.table.name == parent.table.name && r.parent.schema.name == parent.schema.name) =
      m.referencesBetween parent child := by
  refine List.filter_congr fun r member => ?_
  have kept : r.parent.Kept m.catalog :=
    kept_of_parentOf? h (mem_referencesOf_iff.mp member).2.2
  rw [sameAs_eq_names h kept keptParent]

theorem selectedReferences_eq (named : parent.schema.name ≠ "") :
    m.selectedReferences (some parent.schema.name) parent.table.name [child] =
      m.referencesBetween parent child := by
  rw [selectedReferences, List.flatMap_singleton]
  refine List.filter_congr fun r member => ?_
  have kept : r.parent.Kept m.catalog :=
    kept_of_parentOf? h (mem_referencesOf_iff.mp member).2.2
  have notEmpty : parent.schema.name.isEmpty = false := by simpa using named
  rw [Bool.eq_iff_iff, kept.sameAs_iff keptParent h]
  simp only [selectsSchema, notEmpty, Bool.false_eq_true, if_false, Bool.and_eq_true,
    Catalog.sameIdentifier, CaseMode.same_iff]
  constructor
  · rintro ⟨sameTable, sameSchema⟩
    exact kept.eq_of_names keptParent h sameSchema.symm sameTable
  · rintro rfl
    exact ⟨rfl, rfl⟩

theorem tables_of_mem_referencesBetween {r : Reference}
    (member : r ∈ m.referencesBetween parent child) : r.parent = parent ∧ r.child = child := by
  obtain ⟨declared, same⟩ := List.mem_filter.mp member
  obtain ⟨-, ofChild, found⟩ := mem_referencesOf_iff.mp declared
  exact ⟨((kept_of_parentOf? h found).sameAs_iff keptParent h).mp same, ofChild⟩

/-- Between two tables the rows differ in their place in the key only, as far as the views sort. -/
theorem sortRows_between :
    (ResultTable.mk foreignKeysColumns
        ((m.referencesBetween parent child).flatMap m.referenceRows)).sortRows importedKeysOrder
          m.collation =
      (ResultTable.mk foreignKeysColumns
        ((m.referencesBetween parent child).flatMap m.referenceRows)).sortRows exportedKeysOrder
          m.collation := by
  have tells : ∀ row ∈ (m.referencesBetween parent child).flatMap m.referenceRows,
      row.getD 0 .null = m.catalogCell ∧ row.getD 1 .null = .varchar parent.schema.name ∧
        row.getD 2 .null = .varchar parent.table.name ∧ row.getD 4 .null = m.catalogCell ∧
        row.getD 5 .null = .varchar child.schema.name ∧
        row.getD 6 .null = .varchar child.table.name := by
    intro row member
    obtain ⟨r, between, ofReference⟩ := List.mem_flatMap.mp member
    obtain ⟨sameParent, sameChild⟩ := tables_of_mem_referencesBetween h keptParent between
    subst sameParent sameChild
    have cells := tellsTables_of_mem ofReference
    simp only [List.getD_eq_getElem?_getD, cells.parentCatalog, cells.parentSchema,
      cells.parentTable, cells.childCatalog, cells.childSchema, cells.childTable,
      Option.getD_some, and_self]
  rw [ResultTable.sortRows, ResultTable.sortRows, ResultTable.mk.injEq]
  refine ⟨rfl, mergeSort_congr fun a inA b inB => ?_⟩
  obtain ⟨a0, a1, a2, a4, a5, a6⟩ := tells a inA
  obtain ⟨b0, b1, b2, b4, b5, b6⟩ := tells b inB
  rw [Collation.rowLE, Collation.rowLE, importedKeysOrder, exportedKeysOrder,
    Collation.compareRows_cons_of_eq _ _ (a0.trans b0.symm),
    Collation.compareRows_cons_of_eq _ _ (a1.trans b1.symm),
    Collation.compareRows_cons_of_eq _ _ (a2.trans b2.symm),
    Collation.compareRows_cons_of_eq _ _ (a4.trans b4.symm),
    Collation.compareRows_cons_of_eq _ _ (a5.trans b5.symm),
    Collation.compareRows_cons_of_eq _ _ (a6.trans b6.symm)]

end

theorem findTables_of_mem {schema : Schema} {table : Table} (h : m.catalog.WellNamed)
    (listed : schema ∈ m.catalog.schemas.values) (owned : table ∈ schema.tables.values)
    (visible : table.hidden = false) (named : schema.name ≠ "") :
    ∃ located : Located, located.schema = schema ∧ located.table = table ∧
      located.Kept m.catalog ∧ m.findTables (some schema.name) table.name = [located] := by
  have kept := h.kept_of_owned listed owned
  exact ⟨_, rfl, rfl, kept, findTables_own h kept visible named⟩

/-- For two visible tables of a reached catalog that are named by their own names, the cross
reference succeeds when the imported keys of the child and the exported keys of the parent do, and
it is the part of either that is about the other table, row by row. -/
theorem foreignKeyViews_agree (reached : m.catalog.Reached fun _ _ => True)
    {parentSchema childSchema : Schema} {parent child : Table}
    (parentListed : parentSchema ∈ m.catalog.schemas.values)
    (parentOwned : parent ∈ parentSchema.tables.values)
    (parentVisible : parent.hidden = false) (parentNamed : parentSchema.name ≠ "")
    (childListed : childSchema ∈ m.catalog.schemas.values)
    (childOwned : child ∈ childSchema.tables.values)
    (childVisible : child.hidden = false) (childNamed : childSchema.name ≠ "")
    {imported exported : ResultTable}
    (importedOk : m.importedKeys none (some childSchema.name) (some child.name) = .ok imported)
    (exportedOk : m.exportedKeys none (some parentSchema.name) (some parent.name) = .ok exported) :
    ∃ crossed,
      m.crossReference none (some parentSchema.name) (some parent.name)
          none (some childSchema.name) (some child.name) = .ok crossed ∧
        (imported.restrict "PKTABLE_SCHEM" (.varchar parentSchema.name)).restrict
          "PKTABLE_NAME" (.varchar parent.name) = crossed ∧
        (exported.restrict "FKTABLE_SCHEM" (.varchar childSchema.name)).restrict
          "FKTABLE_NAME" (.varchar child.name) = crossed := by
  have h := reached.wellNamed
  obtain ⟨foundParent, rfl, rfl, keptParent, findsParent⟩ :=
    findTables_of_mem h parentListed parentOwned parentVisible parentNamed
  obtain ⟨foundChild, rfl, rfl, keptChild, findsChild⟩ :=
    findTables_of_mem h childListed childOwned childVisible childNamed
  obtain ⟨_, ⟨⟩, opened, importedOk⟩ := importedKeys_eq_ok_iff.mp importedOk
  obtain ⟨_, ⟨⟩, -, exportedOk⟩ := (exportedKeys_eq_ok_iff h).mp exportedOk
  rw [findsChild, List.flatMap_singleton] at importedOk
  rw [findsParent, List.flatMap_singleton] at exportedOk
  obtain ⟨coded, rfl⟩ := referenceTable_eq_ok_iff.mp importedOk
  obtain ⟨-, rfl⟩ := referenceTable_eq_ok_iff.mp exportedOk
  refine ⟨(ResultTable.mk foreignKeysColumns ((m.referencesBetween foundParent foundChild).flatMap
    m.referenceRows)).sortRows exportedKeysOrder m.collation, ?_, ?_, ?_⟩
  · refine crossReference_eq_ok_iff.mpr ⟨_, rfl, _, rfl, opened, ?_⟩
    rw [findsChild, selectedReferences_eq h keptParent parentNamed]
    refine referenceTable_eq_ok_iff.mpr ⟨fun r member => ?_, rfl⟩
    exact coded r (List.mem_of_mem_filter member)
  · rw [ResultTable.restrict_sortRows, ResultTable.restrict_sortRows, restrict_parent,
      filter_imported h keptParent, sortRows_between h keptParent]
  · rw [ResultTable.restrict_sortRows, ResultTable.restrict_sortRows, restrict_child,
      filter_exported h keptChild childVisible]

/-- Two foreign keys of one table reference another, whose names the operations fold. -/
theorem foreignKeyViews_agree_of_two_references :
    let history : List Operation :=
      [.createTable { name := "P", columns := [{ name := "A", type := .integer }] },
        .setPrimaryKey "public" "p" ⟨"K", ["a"]⟩,
        .createSchema "S",
        .createTableIn "S" { name := "F", columns := [{ name := "B", type := .integer }] },
        .addForeignKey "s" "f" {
          name := "C", columns := ["b"], parentSchema := some "public", parentTable := "p",
          parentColumns := ["a"] },
        .addForeignKey "s" "f" {
          name := "D", columns := ["b"], parentSchema := some "public", parentTable := "p",
          parentColumns := ["a"] }]
    let m : Metadata := .ofCatalog ((Catalog.started "C" .insensitive).after history) {} {}
    ∃ imported exported crossed,
      m.importedKeys none (some "S") (some "F") = .ok imported ∧
        m.exportedKeys none (some "PUBLIC") (some "P") = .ok exported ∧
        m.crossReference none (some "PUBLIC") (some "P") none (some "S") (some "F") = .ok crossed ∧
        crossed.rows.length = 2 ∧
        (imported.restrict "PKTABLE_SCHEM" (.varchar "PUBLIC")).restrict
          "PKTABLE_NAME" (.varchar "P") = crossed ∧
        (exported.restrict "FKTABLE_SCHEM" (.varchar "S")).restrict
          "FKTABLE_NAME" (.varchar "F") = crossed := by
  intro history m
  have reached : m.catalog.Reached fun _ _ => True := by
    refine (Catalog.Reached.start "C" .insensitive).after history ?_
    simp [history, Operation.keepsCaseMode]
  have parent : ∃ schema ∈ m.catalog.schemas.values, ∃ table ∈ schema.tables.values,
      schema.name = "PUBLIC" ∧ table.name = "P" ∧ table.hidden = false := by decide +kernel
  have child : ∃ schema ∈ m.catalog.schemas.values, ∃ table ∈ schema.tables.values,
      schema.name = "S" ∧ table.name = "F" ∧ table.hidden = false := by decide +kernel
  have selected : m.catalog.isSelectedBy none = true := rfl
  have coded : ∀ r ∈ (m.findTables (some "S") "F").flatMap m.referencesOf, r.IsCoded := by
    decide +kernel
  have coded' : ∀ r ∈ (m.findTables (some "PUBLIC") "P").flatMap m.referencesTo, r.IsCoded := by
    decide +kernel
  have importedOk : ∃ imported, m.importedKeys none (some "S") (some "F") = .ok imported := by
    simp only [importedKeys_eq_ok_iff, selected, if_true, referenceTable_eq_ok_iff]
    exact ⟨_, "F", rfl, rfl, coded, rfl⟩
  have exportedOk : ∃ exported, m.exportedKeys none (some "PUBLIC") (some "P") = .ok exported := by
    simp only [exportedKeys_eq_ok_iff reached.wellNamed, selected, if_true,
      referenceTable_eq_ok_iff]
    exact ⟨_, "P", rfl, rfl, coded', rfl⟩
  obtain ⟨imported, importedOk⟩ := importedOk
  obtain ⟨exported, exportedOk⟩ := exportedOk
  obtain ⟨parentSchema, parentListed, parent, parentOwned, schemaName, name, visible⟩ := parent
  obtain ⟨childSchema, childListed, child, childOwned, schemaName', name', visible'⟩ := child
  have agree := foreignKeyViews_agree reached parentListed parentOwned visible
    (by rw [schemaName]; decide) childListed childOwned visible' (by rw [schemaName']; decide)
    (schemaName' ▸ name' ▸ importedOk) (schemaName ▸ name ▸ exportedOk)
  rw [schemaName, schemaName', name, name'] at agree
  obtain ⟨crossed, crossedOk, fromImported, fromExported⟩ := agree
  refine ⟨imported, exported, crossed, importedOk, exportedOk, crossedOk, ?_, fromImported,
    fromExported⟩
  obtain ⟨_, ⟨⟩, _, ⟨⟩, -, made⟩ := crossReference_eq_ok_iff.mp crossedOk
  simp only [selected, Bool.and_self, if_true, referenceTable_eq_ok_iff] at made
  obtain ⟨-, rfl⟩ := made
  rw [ResultTable.sortRows, List.length_mergeSort]
  decide +kernel

end CatalogViews.Metadata
