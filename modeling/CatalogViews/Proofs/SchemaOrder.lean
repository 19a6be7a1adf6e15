import CatalogViews.Proofs.EnumerationOrder
import CatalogViews.Proofs.FoundTables

/-!
# Answers without a schema argument

Without a schema argument a view takes the tables of a name from all schemas, in the order in which
the catalog enumerates these. Every enumeration gives the same rows. Their order, however, is only
that of the sort: where the columns by which a view sorts do not separate the rows of two tables,
the table that is found first comes first.

The rows of a table that are alike in the sort keep their order among themselves, so an answer is
determined by the lists of like rows of the found tables. All enumerations give the same answer if
and only if any two of these lists can change places. The rows of all views but `bestRow` tell from
which table they are, so there it means that no rows of two tables are alike
(`likeRows_commute_iff`). The cross reference sorts by the names of the found table, which always
separate two tables; the other views do not.
-/

namespace CatalogViews

/-- The other catalog is the same, with its schemas in another order. -/
structure Catalog.EnumeratedAs (catalog other : Catalog) : Prop where
  schemas : other.schemas.entries.Perm catalog.schemas.entries
  others : other = { catalog with schemas := other.schemas }

theorem Catalog.EnumeratedAs.reordered {catalog other : Catalog}
    (enumerated : catalog.EnumeratedAs other) : catalog.Reordered other where
  name := by rw [enumerated.others]
  caseMode := by rw [enumerated.others]
  schemas key := by
    rw [Keyed.find?_eq_of_perm enumerated.schemas]
    cases catalog.schemas.find? key with
    | none => exact .none
    | some schema => exact .some (.refl schema)

theorem Catalog.EnumeratedAs.metadata {m : Metadata} {other : Catalog}
    (enumerated : m.catalog.EnumeratedAs other) : m.Reordered { m with catalog := other } :=
  ⟨enumerated.reordered, rfl, rfl, rfl⟩

theorem Metadata.ofCatalog_enumerated {catalog other : Catalog}
    (enumerated : catalog.EnumeratedAs other) (settings : Settings) (session : Session) :
    { ofCatalog catalog settings session with catalog := other } =
      ofCatalog other settings session := by
  rw [enumerated.others]
  rfl

namespace TableView

open Metadata

/-- The rows of a table that are like the given one in the sort of a view. -/
def likeRows (m : Metadata) (view : TableView) (row : Row) (found : Located) : List Row :=
  (view.foundRows m found).filter (alike (m.collation.rowLE view.order) row)

theorem answerFor_of_coded {m : Metadata} {view : TableView} {found : List Located}
    (coded : ∀ located ∈ found, view.Coded m located) :
    view.answerFor m found = .ok ((ResultTable.mk view.columns
      (found.flatMap (view.foundRows m ·))).sortRows view.order m.collation) :=
  if_pos coded

theorem exists_answerFor_singleton_iff {m : Metadata} {view : TableView} {found : Located} :
    (∃ answer, view.answerFor m [found] = .ok answer) ↔ view.Coded m found := by
  simp only [answerFor, List.forall_mem_singleton]
  split <;> simp [*]

/-- Of tables that can be answered, the lists of like rows determine the answer. -/
theorem answerFor_eq_iff {m n : Metadata} (collation : m.collation = n.collation)
    {view : TableView} {found found' : List Located}
    (coded : ∀ located ∈ found, view.Coded m located)
    (coded' : ∀ located ∈ found', view.Coded n located) :
    view.answerFor m found = view.answerFor n found' ↔
      ∀ row, found.flatMap (view.likeRows m row) = found'.flatMap (view.likeRows n row) := by
  rw [answerFor_of_coded coded, answerFor_of_coded coded', Except.ok.injEq, ResultTable.sortRows,
    ResultTable.sortRows, ResultTable.mk.injEq, collation,
    mergeSort_eq_iff_filter_alike (n.collation.rowLE_trans _) (n.collation.rowLE_total _)]
  unfold likeRows
  simp only [true_and, List.filter_flatMap, collation]

section

variable {m n : Metadata} (same : m.Reordered n) (h : m.catalog.WellNamed) (view : TableView)
  {located : Located}

include same h

theorem coded_outline : view.Coded m located.outline ↔ view.Coded n located := by
  rw [← exists_answerFor_singleton_iff, ← exists_answerFor_singleton_iff,
    answerFor_outline same h view located]

variable (coded : view.Coded n located)

include coded

theorem likeRows_outline (row : Row) :
    view.likeRows m row located.outline = view.likeRows n row located := by
  have outlined := (coded_outline same h view).mpr coded
  have lists := (answerFor_eq_iff same.collation (List.forall_mem_singleton.mpr outlined)
    (List.forall_mem_singleton.mpr coded)).mp (answerFor_outline same h view located) row
  rwa [List.flatMap_singleton, List.flatMap_singleton] at lists

theorem perm_foundRows_outline :
    (view.foundRows m located.outline).Perm (view.foundRows n located) := by
  have outlined := (coded_outline same h view).mpr coded
  have answers := answerFor_outline same h view located
  rw [answerFor_of_coded (List.forall_mem_singleton.mpr outlined),
    answerFor_of_coded (List.forall_mem_singleton.mpr coded), Except.ok.injEq,
    List.flatMap_singleton, List.flatMap_singleton] at answers
  have sorted := congrArg (·.rows) answers
  exact (List.mergeSort_perm _ _).symm.trans (.trans (.of_eq sorted) (List.mergeSort_perm _ _))

end

section

variable {m n : Metadata} (same : m.Reordered n) (h : m.catalog.WellNamed) (view : TableView)
  {found found' : List Located}
  (perm : (found.map Located.outline).Perm (found'.map Located.outline))

include same h

theorem flatMap_likeRows_outline (coded : ∀ located ∈ found, view.Coded n located) (row : Row) :
    (found.map Located.outline).flatMap (view.likeRows m row) =
      found.flatMap (view.likeRows n row) := by
  rw [List.flatMap_map]
  apply List.flatMap_congr
  intro located listed
  exact likeRows_outline same h view (coded located listed) row

theorem perm_flatMap_foundRows_outline (coded : ∀ located ∈ found, view.Coded n located) :
    ((found.map Located.outline).flatMap (view.foundRows m ·)).Perm
      (found.flatMap (view.foundRows n ·)) := by
  rw [List.flatMap_map]
  apply List.Perm.flatMap_left
  intro located listed
  exact perm_foundRows_outline same h view (coded located listed)

include perm

theorem forall_coded_congr :
    (∀ located ∈ found, view.Coded m located) ↔ ∀ located ∈ found', view.Coded n located :=
  calc (∀ located ∈ found, view.Coded m located)
    _ ↔ ∀ outline ∈ found.map Located.outline, view.Coded m outline := by
      simp only [List.forall_mem_map, coded_outline (.refl m) h]
    _ ↔ ∀ outline ∈ found'.map Located.outline, view.Coded m outline := by
      simp only [perm.mem_iff]
    _ ↔ ∀ located ∈ found', view.Coded n located := by
      simp only [List.forall_mem_map, coded_outline same h]

/-- Where the like rows of any two tables can change places, the order in which the tables are found
does not matter. -/
theorem answerFor_eq_of_commute (coded : ∀ located ∈ found, view.Coded m located)
    (commute : ∀ located ∈ found, ∀ other ∈ found, ∀ row,
      view.likeRows m row located ++ view.likeRows m row other =
        view.likeRows m row other ++ view.likeRows m row located) :
    view.answerFor m found = view.answerFor n found' := by
  have coded' := (forall_coded_congr same h view perm).mp coded
  rw [answerFor_eq_iff same.collation coded coded']
  intro row
  rw [← flatMap_likeRows_outline (.refl m) h view coded,
    ← flatMap_likeRows_outline same h view coded']
  apply flatMap_eq_of_perm perm
  apply List.pairwise_of_forall_mem_list
  intro outline inList outline' inList'
  obtain ⟨located, listed, rfl⟩ := List.mem_map.mp inList
  obtain ⟨other, listed', rfl⟩ := List.mem_map.mp inList'
  rw [likeRows_outline (.refl m) h view (coded located listed),
    likeRows_outline (.refl m) h view (coded other listed')]
  exact commute located listed other listed' row

end

/-- The same rows, perhaps in another order, or the same failure. -/
inductive SameRows : Except ViewError ResultTable → Except ViewError ResultTable → Prop where
  | failed (error : ViewError) : SameRows (.error error) (.error error)
  | answered (columns : List ResultColumn) {rows rows' : List Row} (perm : rows.Perm rows') :
    SameRows (.ok ⟨columns, rows⟩) (.ok ⟨columns, rows'⟩)

theorem SameRows.refl (answer : Except ViewError ResultTable) : SameRows answer answer := by
  cases answer with
  | error error => exact .failed error
  | ok table => exact .answered table.columns (.refl table.rows)

theorem sameRows_answerFor {m n : Metadata} (same : m.Reordered n) (h : m.catalog.WellNamed)
    (view : TableView) {found found' : List Located}
    (perm : (found.map Located.outline).Perm (found'.map Located.outline)) :
    SameRows (view.answerFor m found) (view.answerFor n found') := by
  by_cases coded : ∀ located ∈ found, view.Coded m located
  · have coded' := (forall_coded_congr same h view perm).mp coded
    have gathered : (found.flatMap (view.foundRows m ·)).Perm
        (found'.flatMap (view.foundRows n ·)) :=
      (perm_flatMap_foundRows_outline (.refl m) h view coded).symm.trans
        ((perm.flatMap_right _).trans (perm_flatMap_foundRows_outline same h view coded'))
    rw [answerFor_of_coded coded, answerFor_of_coded coded']
    apply SameRows.answered
    exact (List.mergeSort_perm _ _).trans (gathered.trans (List.mergeSort_perm _ _).symm)
  · have uncoded := coded
    rw [forall_coded_congr same h view perm] at uncoded
    rw [answerFor, answerFor, if_neg coded, if_neg uncoded]
    exact .failed _

/-- An answer does not show which of two tables has been found first: no row of one is like a row of
the other. The rows of `bestRow` are not sorted and do not tell their table, so there the rows of
both have to make the same list in both orders. -/
def Separates (m : Metadata) (found other : Located) : TableView → Prop
  | bestRow =>
    m.bestRowRows found ++ m.bestRowRows other = m.bestRowRows other ++ m.bestRowRows found
  | view => Apart (m.collation.rowLE view.order) (view.foundRows m found) (view.foundRows m other)

section

variable {m : Metadata} {view : TableView} {found other : Located}

theorem separates_iff_apart (sorts : view ≠ bestRow) : view.Separates m found other ↔
    Apart (m.collation.rowLE view.order) (view.foundRows m found) (view.foundRows m other) := by
  cases view with
  | bestRow => exact absurd rfl sorts
  | _ => exact .rfl

/-- All rows of all views but one have the names of the table in the same two places. -/
theorem exists_tellsNames (m : Metadata) (sorts : view ≠ bestRow) :
    ∃ first second : Nat, ∀ located, ∀ row ∈ view.foundRows m located,
      row[first]? = some (.varchar located.schema.name) ∧
        row[second]? = some (.varchar located.table.name) := by
  cases view with
  | bestRow => exact absurd rfl sorts
  | primaryKeys =>
    refine ⟨1, 2, ?_⟩
    intro located row member
    rw [foundRows, primaryKeyRows] at member
    split at member
    · cases member
    · obtain ⟨_, -, rfl⟩ := List.mem_map.mp member
      exact ⟨rfl, rfl⟩
  | importedKeys =>
    refine ⟨5, 6, ?_⟩
    intro located row member
    obtain ⟨r, declared, ofReference⟩ := List.mem_flatMap.mp member
    have cells := tellsTables_of_mem ofReference
    rw [← (mem_referencesOf_iff.mp declared).2.1]
    exact ⟨cells.childSchema, cells.childTable⟩
  | exportedKeys =>
    refine ⟨1, 2, ?_⟩
    intro located row member
    obtain ⟨r, selected, ofReference⟩ := List.mem_flatMap.mp member
    obtain ⟨r, -, rfl⟩ := List.mem_map.mp selected
    have cells := tellsTables_of_mem ofReference
    exact ⟨cells.parentSchema, cells.parentTable⟩
  | crossReference primaryCatalog primarySchema primaryTable =>
    refine ⟨5, 6, ?_⟩
    intro located row member
    obtain ⟨r, selected, ofReference⟩ := List.mem_flatMap.mp member
    have cells := tellsTables_of_mem ofReference
    cases primaryTable with
    | none => cases selected
    | some primaryTable =>
      have declared := List.mem_of_mem_filter selected
      rw [← (mem_referencesOf_iff.mp declared).2.1]
      exact ⟨cells.childSchema, cells.childTable⟩
  | indexInfo unique approximate =>
    refine ⟨1, 2, ?_⟩
    intro located row member
    obtain ⟨index, -, ofIndex⟩ := List.mem_flatMap.mp member
    obtain ⟨_, -, rfl⟩ := List.mem_map.mp ofIndex
    exact ⟨rfl, rfl⟩

theorem exists_mem_of_append_comm {α : Type} {l l' : List α} (commute : l ++ l' = l' ++ l)
    (nonempty : l ≠ []) (nonempty' : l' ≠ []) : ∃ a ∈ l, a ∈ l' := by
  obtain ⟨a, l, rfl⟩ := List.exists_cons_of_ne_nil nonempty
  obtain ⟨b, l', rfl⟩ := List.exists_cons_of_ne_nil nonempty'
  rw [List.cons_append, List.cons_append, List.cons.injEq] at commute
  exact ⟨a, List.mem_cons_self, by simp [commute.1]⟩

/-- The like rows of two tables change places if there are none of one of them. -/
theorem likeRows_commute_iff (h : m.catalog.WellNamed) (kept : found.Kept m.catalog)
    (kept' : other.Kept m.catalog) (differ : found ≠ other) :
    (∀ row, view.likeRows m row found ++ view.likeRows m row other =
      view.likeRows m row other ++ view.likeRows m row found) ↔ view.Separates m found other := by
  by_cases sorts : view = bestRow
  · rw [sorts]
    have all (located : Located) (row : Row) :
        bestRow.likeRows m row located = m.bestRowRows located :=
      List.filter_eq_self.mpr fun _ _ => rfl
    simp only [all, forall_const, Separates]
  · rw [separates_iff_apart sorts]
    constructor
    · intro commute a ofFound b ofOther
      by_contra like
      rw [Bool.not_eq_false] at like
      have self : alike (m.collation.rowLE view.order) a a = true :=
        (m.collation.alike_rowLE_iff _).mpr Std.ReflCmp.compare_self
      have here : a ∈ view.likeRows m a found := List.mem_filter.mpr ⟨ofFound, self⟩
      have there : b ∈ view.likeRows m a other := List.mem_filter.mpr ⟨ofOther, like⟩
      obtain ⟨row, inFound, inOther⟩ := exists_mem_of_append_comm (commute a)
        (List.ne_nil_of_mem here) (List.ne_nil_of_mem there)
      obtain ⟨first, second, tells⟩ := exists_tellsNames m sorts
      have names := tells found row (List.mem_of_mem_filter inFound)
      have names' := tells other row (List.mem_of_mem_filter inOther)
      rw [names.1, names.2, Option.some.injEq, Option.some.injEq, Value.varchar.injEq,
        Value.varchar.injEq] at names'
      exact differ (kept.eq_of_names kept' h (congrArg _ names'.1) (congrArg _ names'.2))
    · intro apart row
      exact filter_alike_append_comm (m.collation.rowLE_trans _) apart row

theorem mem_primaryKeyRows_iff {row : Row} : row ∈ m.primaryKeyRows found ↔
    ∃ key ∈ found.table.primaryKey, ∃ column place, key.columns[place]? = some column ∧
      row = m.primaryKeyRow found key column place := by
  rw [primaryKeyRows]
  cases found.table.primaryKey with
  | none => simp
  | some key => simp [primaryKeyRow, List.mem_zipIdx_iff_getElem?, eq_comm]

/-- The columns of primary keys are sorted by their names alone. -/
theorem separates_primaryKeys_iff : primaryKeys.Separates m found other ↔
    ∀ key ∈ found.table.primaryKey, ∀ key' ∈ other.table.primaryKey,
      ∀ column ∈ key.columns, column ∉ key'.columns := by
  have sorts : primaryKeys ≠ bestRow := by
    intro same
    cases same
  rw [separates_iff_apart sorts]
  constructor
  · intro apart key declared key' declared' column listed listed'
    obtain ⟨place, here⟩ := List.mem_iff_getElem?.mp listed
    obtain ⟨place', there⟩ := List.mem_iff_getElem?.mp listed'
    have like : alike (m.collation.rowLE primaryKeysOrder) (m.primaryKeyRow found key column place)
        (m.primaryKeyRow other key' column place') = true := by
      rw [m.collation.alike_rowLE_iff, primaryKeysOrder, Collation.compareRows_cons_of_eq] <;> rfl
    have unlike := apart _ (mem_primaryKeyRows_iff.mpr ⟨key, declared, column, place, here, rfl⟩)
      _ (mem_primaryKeyRows_iff.mpr ⟨key', declared', column, place', there, rfl⟩)
    rw [order, like] at unlike
    cases unlike
  · intro disjoint a ofFound b ofOther
    by_contra like
    rw [Bool.not_eq_false, m.collation.alike_rowLE_iff] at like
    obtain ⟨key, declared, column, place, here, rfl⟩ := mem_primaryKeyRows_iff.mp ofFound
    obtain ⟨key', declared', column', place', there, rfl⟩ := mem_primaryKeyRows_iff.mp ofOther
    have same : column = column' :=
      m.collation.text_eq_of_compareRows like 3 List.mem_cons_self rfl rfl
    rw [← same] at there
    exact disjoint key declared key' declared' column (List.mem_of_getElem? here)
      (List.mem_of_getElem? there)

end

section

variable {m n : Metadata} {view : TableView} {catalog schema table : Option String}

/-- Of a call that finds tables to report, the lists of like rows determine the answer. -/
theorem ask_eq_ask_iff (same : m.Reordered n) (h : m.catalog.WellNamed)
    (complete : view.isComplete = true) (opened : m.session.closed = false)
    (selected : view.selects m catalog = true) {name : String}
    (coded : ∀ located ∈ m.findTables schema name, view.Coded m located) :
    view.ask m catalog schema (some name) = view.ask n catalog schema (some name) ↔
      ∀ row, (m.findTables schema name).flatMap (view.likeRows m row) =
        (n.findTables schema name).flatMap (view.likeRows n row) := by
  have opened' : n.session.closed = false := by rw [← same.session, opened]
  have selected' : view.selects n catalog = true := by rw [← selects_eq same, selected]
  have outlines := same.perm_findTables h schema name
  rw [ask_of_selected complete opened selected, ask_of_selected complete opened' selected']
  exact answerFor_eq_iff same.collation coded
    ((forall_coded_congr same h view outlines).mp coded)

end

theorem exists_perm_cons_cons {α : Type} [DecidableEq α] {l : List α} {a b : α} (first : a ∈ l)
    (second : b ∈ l) (differ : a ≠ b) : ∃ rest, l.Perm (a :: b :: rest) := by
  have later : b ∈ l.erase a := (List.mem_erase_of_ne differ.symm).mpr second
  exact ⟨(l.erase a).erase b,
    (List.perm_cons_erase first).trans ((List.perm_cons_erase later).cons a)⟩

/-- The catalog with the same entries in another order. -/
theorem exists_enumeratedAs (catalog : Catalog) {entries : List (String × Schema)}
    (perm : entries.Perm catalog.schemas.entries) :
    ∃ other, catalog.EnumeratedAs other ∧ other.schemas.entries = entries :=
  ⟨{ catalog with schemas := ⟨entries, (perm.map _).nodup_iff.mpr catalog.schemas.nodup⟩ },
    ⟨perm, rfl⟩, rfl⟩

/-- The outline of the table that a name means in a schema, none for a hidden one. -/
def outlineIn (m : Metadata) (name : String) (owner : Schema) : List Located :=
  ((m.catalog.findTable? owner name).map Located.outline).toList.filter (!·.table.hidden)

section

variable {m : Metadata} (h : m.catalog.WellNamed) {view : TableView}
  {catalog table : Option String} {name : String} {found other : Located}

include h

theorem map_outline_findTables_enumerated {other : Catalog}
    (enumerated : m.catalog.EnumeratedAs other) :
    (Metadata.findTables { m with catalog := other } none name).map Located.outline =
      (other.schemas.entries.map (·.2)).flatMap (outlineIn m name) := by
  rw [map_outline_findTables]
  apply List.flatMap_congr
  intro owner _
  rw [outlineIn, enumerated.reordered.findTable?_outline h (.refl owner)]

/-- Of two tables, one enumeration finds the first first, and another the second, and they continue
in the same way. -/
theorem exists_enumerations (inFound : found ∈ m.findTables none name)
    (inOther : other ∈ m.findTables none name) (differ : found ≠ other) :
    ∃ first second rest, m.catalog.EnumeratedAs first ∧ m.catalog.EnumeratedAs second ∧
      (Metadata.findTables { m with catalog := first } none name).map Located.outline =
        found.outline :: other.outline :: rest ∧
      (Metadata.findTables { m with catalog := second } none name).map Located.outline =
        other.outline :: found.outline :: rest := by
  obtain ⟨⟨owner, listed, meant⟩, visible⟩ := mem_findTables_iff.mp inFound
  obtain ⟨⟨owner', listed', meant'⟩, visible'⟩ := mem_findTables_iff.mp inOther
  obtain ⟨entry, inEntries, rfl⟩ := List.mem_map.mp listed
  obtain ⟨entry', inEntries', rfl⟩ := List.mem_map.mp listed'
  have distinct : entry ≠ entry' := by
    intro same
    rw [same, meant'] at meant
    exact differ (Option.some.inj meant).symm
  have here : outlineIn m name entry.2 = [found.outline] := by
    simp [outlineIn, meant, Located.outline, visible]
  have there : outlineIn m name entry'.2 = [other.outline] := by
    simp [outlineIn, meant', Located.outline, visible']
  obtain ⟨rest, perm⟩ := exists_perm_cons_cons inEntries inEntries' distinct
  obtain ⟨first, enumerated, entries⟩ := exists_enumeratedAs m.catalog perm.symm
  obtain ⟨second, enumerated', entries'⟩ := exists_enumeratedAs m.catalog
    ((List.Perm.swap entry entry' rest).trans perm.symm)
  refine ⟨first, second, (rest.map (·.2)).flatMap (outlineIn m name), enumerated, enumerated',
    ?_, ?_⟩
  · rw [map_outline_findTables_enumerated h enumerated, entries]
    simp [here, there]
  · rw [map_outline_findTables_enumerated h enumerated', entries']
    simp [here, there]

omit h in
theorem foundRows_of_incomplete (m : Metadata) (incomplete : view.isComplete = false)
    (located : Located) : view.foundRows m located = [] := by
  cases view with
  | crossReference primaryCatalog primarySchema primaryTable =>
    cases primaryTable with
    | none => rfl
    | some => cases incomplete
  | _ => cases incomplete

/-- Where all enumerations give the same answer, the like rows of two tables can change places. -/
theorem likeRows_commute_of_enumerations
    (same : ∀ other, m.catalog.EnumeratedAs other →
      view.ask { m with catalog := other } catalog none (some name) =
        view.ask m catalog none (some name))
    (opened : m.session.closed = false) (selected : view.selects m catalog = true)
    (coded : ∀ located ∈ m.findTables none name, view.Coded m located)
    (inFound : found ∈ m.findTables none name) (inOther : other ∈ m.findTables none name)
    (differ : found ≠ other) (row : Row) :
    view.likeRows m row found ++ view.likeRows m row other =
      view.likeRows m row other ++ view.likeRows m row found := by
  by_cases complete : view.isComplete = true
  · have lists (other : Catalog) (enumerated : m.catalog.EnumeratedAs other) :
        (m.findTables none name).flatMap (view.likeRows m row) =
          ((Metadata.findTables { m with catalog := other } none name).map
            Located.outline).flatMap (view.likeRows m row) := by
      have reordered := enumerated.metadata
      have coded' := (forall_coded_congr reordered h view
        (reordered.perm_findTables h none name)).mp coded
      rw [flatMap_likeRows_outline reordered h view coded']
      exact (ask_eq_ask_iff reordered h complete opened selected coded).mp
        (same other enumerated).symm row
    obtain ⟨first, second, rest, enumerated, enumerated', here, there⟩ :=
      exists_enumerations h inFound inOther differ
    have swapped := (lists first enumerated).symm.trans (lists second enumerated')
    rw [here, there] at swapped
    simp only [List.flatMap_cons, ← List.append_assoc] at swapped
    have front := List.append_cancel_right swapped
    rwa [likeRows_outline (.refl m) h view (coded found inFound),
      likeRows_outline (.refl m) h view (coded other inOther)] at front
  · rw [Bool.not_eq_true] at complete
    rw [likeRows, likeRows, foundRows_of_incomplete m complete, foundRows_of_incomplete m complete]

end

/-- The call fails or looks at no table, or the sort separates any two tables that it finds. -/
def SortDecides (m : Metadata) (catalog table : Option String) (view : TableView) : Prop :=
  m.session.closed = false → view.selects m catalog = true → ∀ name, table = some name →
    (∀ located ∈ m.findTables none name, view.Coded m located) →
    ∀ found ∈ m.findTables none name, ∀ other ∈ m.findTables none name, found ≠ other →
      view.Separates m found other

section

variable {m n : Metadata} {view : TableView} {catalog table : Option String}

theorem SortDecides.ask_eq (decides : view.SortDecides m catalog table) (same : m.Reordered n)
    (h : m.catalog.WellNamed) : view.ask m catalog none table = view.ask n catalog none table := by
  apply ask_rel same (fun _ => rfl)
  intro opened selected name named
  have outlines := same.perm_findTables h none name
  by_cases coded : ∀ located ∈ m.findTables none name, view.Coded m located
  · apply answerFor_eq_of_commute same h view outlines coded
    intro found inFound other inOther row
    by_cases differ : found = other
    · rw [differ]
    · have separated := decides opened selected name named coded found inFound other inOther differ
      exact (likeRows_commute_iff h (kept_of_mem_findTables h inFound)
        (kept_of_mem_findTables h inOther) differ).mpr separated row
  · have uncoded := coded
    rw [forall_coded_congr same h view outlines] at uncoded
    rw [answerFor, answerFor, if_neg coded, if_neg uncoded]

theorem sortDecides_of_enumerations (h : m.catalog.WellNamed)
    (same : ∀ other, m.catalog.EnumeratedAs other →
      view.ask { m with catalog := other } catalog none table = view.ask m catalog none table) :
    view.SortDecides m catalog table := by
  intro opened selected name named coded found inFound other inOther differ
  rw [named] at same
  apply (likeRows_commute_iff h (kept_of_mem_findTables h inFound)
    (kept_of_mem_findTables h inOther) differ).mp
  exact likeRows_commute_of_enumerations h same opened selected coded inFound inOther differ

end

/-- What a call without a schema argument answers in the enumerations of a catalog. -/
structure OrderedBySort (m : Metadata) (catalog table : Option String) (view : TableView) :
    Prop where
  /-- In every enumeration the same rows, or the same failure. -/
  sameRows : ∀ other, m.catalog.EnumeratedAs other →
    SameRows (view.ask m catalog none table)
      (view.ask { m with catalog := other } catalog none table)
  /-- The same order, too, where the sort decides it and nowhere else. -/
  sameOrder_iff : (∀ other, m.catalog.EnumeratedAs other →
    view.ask { m with catalog := other } catalog none table = view.ask m catalog none table) ↔
      view.SortDecides m catalog table
  /-- The cross reference sorts by the names of the table that it finds. -/
  crossReference : ∀ primaryCatalog primarySchema primaryTable,
    view = .crossReference primaryCatalog primarySchema primaryTable →
      view.SortDecides m catalog table

theorem orderedBySort_of_reached {m : Metadata} (reached : m.catalog.Reached fun _ _ => True)
    (catalog table : Option String) (view : TableView) : view.OrderedBySort m catalog table := by
  have h := reached.wellNamed
  constructor
  · intro other enumerated
    have reordered := enumerated.metadata
    apply ask_rel reordered SameRows.refl
    intro _ _ name _
    exact sameRows_answerFor reordered h view (reordered.perm_findTables h none name)
  · constructor
    · exact sortDecides_of_enumerations h
    · intro decides other enumerated
      exact (decides.ask_eq enumerated.metadata h).symm
  · intro primaryCatalog primarySchema primaryTable isCross
    apply sortDecides_of_enumerations h
    intro other enumerated
    rw [isCross, ask, ask, enumerated.metadata.crossReference_eq h]

/-- Two tables of the same name whose primary keys have different columns. -/
theorem orderedBySort_of_different_columns :
    let table (column : String) : Table :=
      { name := "T", columns := [{ name := column, type := .integer }] }
    let catalog := (Catalog.started "C" .insensitive).after
      [.createSchema "R", .createSchema "S", .createTableIn "R" (table "A"),
        .setPrimaryKey "R" "T" ⟨"K", ["A"]⟩, .createTableIn "S" (table "B"),
        .setPrimaryKey "S" "T" ⟨"K", ["B"]⟩]
    ((Metadata.ofCatalog catalog {} {}).findTables none "T").length = 2 ∧
      ∀ other, catalog.EnumeratedAs other →
        primaryKeys.ask (.ofCatalog other {} {}) none none (some "T") =
          primaryKeys.ask (.ofCatalog catalog {} {}) none none (some "T") := by
  intro table catalog
  have reached : catalog.Reached fun _ _ => True := by
    refine (Catalog.Reached.start "C" .insensitive).after _ ?_
    simp [Operation.keepsCaseMode]
  have decides : primaryKeys.SortDecides (.ofCatalog catalog {} {}) none (some "T") := by
    intro _ _ name named _
    obtain rfl := Option.some.inj named
    simp only [separates_primaryKeys_iff]
    decide +kernel
  have ordered (catalog : Catalog) (reached : catalog.Reached fun _ _ => True)
      (decides : primaryKeys.SortDecides (.ofCatalog catalog {} {}) none (some "T"))
      (other : Catalog) (enumerated : catalog.EnumeratedAs other) :
      primaryKeys.ask (.ofCatalog other {} {}) none none (some "T") =
        primaryKeys.ask (.ofCatalog catalog {} {}) none none (some "T") := by
    have views := orderedBySort_of_reached (m := .ofCatalog catalog {} {}) reached none (some "T")
      primaryKeys
    have same := views.sameOrder_iff.mpr decides other enumerated
    rwa [Metadata.ofCatalog_enumerated enumerated {} {}] at same
  refine ⟨?_, ordered catalog reached decides⟩
  decide +kernel

/-- Of two enumerations of a catalog the answers differ if some of their lists of like rows do. -/
theorem ask_ne_of_likeRows {catalog other : Catalog} (h : catalog.WellNamed)
    (enumerated : catalog.EnumeratedAs other) (name : String) (view : TableView)
    (complete : view.isComplete = true) :
    let m : Metadata := .ofCatalog catalog {} {}
    let n : Metadata := .ofCatalog other {} {}
    view.selects m none = true → (∀ located ∈ m.findTables none name, view.Coded m located) →
    (∃ row ∈ (m.findTables none name).flatMap (view.foundRows m ·),
      (m.findTables none name).flatMap (view.likeRows m row) ≠
        (n.findTables none name).flatMap (view.likeRows n row)) →
    view.ask m none none (some name) ≠ view.ask n none none (some name) := by
  intro m n selected coded differ answers
  obtain ⟨row, -, differ⟩ := differ
  have reordered : (ofCatalog catalog {} {}).Reordered (ofCatalog other {} {}) := by
    rw [← Metadata.ofCatalog_enumerated enumerated {} {}]
    exact enumerated.metadata
  exact differ ((ask_eq_ask_iff reordered h complete rfl selected coded).mp answers row)

/-- Tables of the same name in the schemas `R` and `S`, with the same names for their columns, keys
and indexes, a table that both refer to, and one that refers to both. -/
def twinHistory (schemas : List String) : List Operation :=
  let reference (name schema table : String) : ForeignKey :=
    { name, columns := ["A"], parentSchema := some schema, parentTable := table,
      parentColumns := ["A"] }
  let twin (schema : String) (type : DataType) : List Operation :=
    [.createTableIn schema { name := "T", columns := [{ name := "A", type }] },
      .setPrimaryKey schema "T" ⟨"K", ["A"]⟩,
      .addIndex schema { name := "I", table := "T", columns := [⟨"A", .ascending⟩] },
      .addForeignKey schema "T" (reference "F" "PUBLIC" "P")]
  schemas.map .createSchema ++
    [.createTable { name := "P", columns := [{ name := "A", type := .integer }] },
      .setPrimaryKey "PUBLIC" "P" ⟨"K", ["A"]⟩] ++
    twin "R" .integer ++ twin "S" .smallint ++
    [.createTable { name := "C", columns := [{ name := "A", type := .integer }] },
      .addForeignKey "PUBLIC" "C" (reference "F" "R" "T"),
      .addForeignKey "PUBLIC" "C" (reference "G" "S" "T")]

/-- The two schemas created in one order and in the other. -/
theorem answers_differ_of_creation_order :
    let catalog (schemas : List String) : Catalog :=
      (Catalog.started "C" .insensitive).after (twinHistory schemas)
    (catalog ["R", "S"]).Reached (fun _ _ => True) ∧
      (catalog ["S", "R"]).Reached (fun _ _ => True) ∧
      (catalog ["R", "S"]).EnumeratedAs (catalog ["S", "R"]) ∧
      ∀ view ∈ [primaryKeys, bestRow, importedKeys, exportedKeys, indexInfo false false],
        view.ask (.ofCatalog (catalog ["R", "S"]) {} {}) none none (some "T") ≠
          view.ask (.ofCatalog (catalog ["S", "R"]) {} {}) none none (some "T") := by
  intro catalog
  have reached (schemas : List String)
      (kept : ∀ operation ∈ twinHistory schemas, operation.keepsCaseMode = true) :
      (catalog schemas).Reached fun _ _ => True :=
    (Catalog.Reached.start "C" .insensitive).after (twinHistory schemas) fun operation member =>
      ⟨kept operation member, fun _ _ => trivial⟩
  have first := reached ["R", "S"] (by decide)
  have second := reached ["S", "R"] (by decide)
  have enumerated : (catalog ["R", "S"]).EnumeratedAs (catalog ["S", "R"]) := by
    constructor <;> decide +kernel
  have differ := ask_ne_of_likeRows first.wellNamed enumerated "T"
  refine ⟨first, second, enumerated, ?_⟩
  simp only [List.forall_mem_cons]
  refine ⟨differ _ rfl rfl ?_ ?_, differ _ rfl rfl ?_ ?_, differ _ rfl rfl ?_ ?_,
    differ _ rfl rfl ?_ ?_, differ _ rfl rfl ?_ ?_, nofun⟩
  all_goals decide +kernel

end TableView

end CatalogViews
