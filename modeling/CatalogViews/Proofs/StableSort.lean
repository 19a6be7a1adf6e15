import CatalogViews.Proofs.CellOrder

/-!
# Sorting and selecting

A stable sort puts an element before the first of the later elements that may not stand after it,
so selecting rows before sorting them and after sorting them give the same list.

Elements that may stand on either side of each other are alike. A stable sort keeps their order and
decides the order of all others, so its result is determined by the lists of like elements. It does
not matter in which order blocks of elements come if no element of one block is like one of another.
-/

namespace CatalogViews

/-- Where the elements of each part are selected all or none, whole parts are selected. -/
theorem filter_flatMap_of_forall {α β : Type} {l : List α} {f : α → List β} {p : β → Bool}
    {q : α → Bool} (common : ∀ a ∈ l, ∀ b ∈ f a, p b = q a) :
    (l.flatMap f).filter p = (l.filter q).flatMap f := by
  induction l with
  | nil => rfl
  | cons a l ih =>
    rw [List.forall_mem_cons] at common
    rw [List.flatMap_cons, List.filter_append, ih common.2, List.filter_cons]
    split
    · rename_i selected
      have all : (f a).filter p = f a :=
        List.filter_eq_self.mpr fun b member => (common.1 b member).trans selected
      rw [all, List.flatMap_cons]
    · rename_i rejected
      have none : (f a).filter p = [] :=
        List.filter_eq_nil_iff.mpr fun b member => by rwa [common.1 b member]
      rw [none, List.nil_append]

theorem pairwise_zipIdx_lt {α : Type} (l : List α) : l.zipIdx.Pairwise fun p q => p.2 < q.2 := by
  rw [← List.pairwise_map, List.zipIdx_map_snd]
  exact List.pairwise_lt_range'

section

variable {α : Type} {le : α → α → Bool}

/-- The first element goes after those that must precede it and before all others. -/
theorem mergeSort_cons_eq (trans : ∀ a b c, le a b = true → le b c = true → le a c = true)
    (total : ∀ a b, (le a b || le b a) = true) (a : α) (l : List α) :
    (a :: l).mergeSort le =
        (l.mergeSort le).filter (!le a ·) ++ a :: (l.mergeSort le).filter (le a ·) ∧
      l.mergeSort le = (l.mergeSort le).filter (!le a ·) ++ (l.mergeSort le).filter (le a ·) := by
  obtain ⟨before, after, whole, rest, smaller⟩ := List.mergeSort_cons trans total a l
  have sorted := List.pairwise_mergeSort trans total (a :: l)
  rw [whole, List.pairwise_append] at sorted
  have larger : ∀ b ∈ after, le a b = true := (List.pairwise_cons.mp sorted.2.1).1
  have left : (l.mergeSort le).filter (!le a ·) = before := by
    have all : after.filter (!le a ·) = [] :=
      List.filter_eq_nil_iff.mpr fun b member => by simp [larger b member]
    rw [rest, List.filter_append, List.filter_eq_self.mpr smaller, all, List.append_nil]
  have right : (l.mergeSort le).filter (le a ·) = after := by
    have none : before.filter (le a ·) = [] :=
      List.filter_eq_nil_iff.mpr fun b member => by simpa using smaller b member
    rw [rest, List.filter_append, List.filter_eq_self.mpr larger, none, List.nil_append]
  rw [left, right]
  exact ⟨whole, rest⟩

theorem filter_mergeSort (trans : ∀ a b c, le a b = true → le b c = true → le a c = true)
    (total : ∀ a b, (le a b || le b a) = true) (p : α → Bool) (l : List α) :
    (l.mergeSort le).filter p = (l.filter p).mergeSort le := by
  induction l with
  | nil => simp
  | cons a l ih =>
    obtain ⟨whole, rest⟩ := mergeSort_cons_eq trans total a l
    rw [List.filter_cons]
    split
    · rename_i selected
      rw [(mergeSort_cons_eq trans total a (l.filter p)).1, ← ih, whole, List.filter_append,
        List.filter_cons_of_pos selected]
      simp only [List.filter_filter, Bool.and_comm]
    · rename_i rejected
      rw [whole, List.filter_append, List.filter_cons_of_neg rejected, ← List.filter_append, ← rest,
        ih]

/-- Either of two elements may stand before the other. -/
def alike (le : α → α → Bool) (a b : α) : Bool :=
  le a b && le b a

theorem alike_iff {a b : α} : alike le a b = true ↔ le a b = true ∧ le b a = true := by
  simp [alike]

theorem alike_isLE_iff (cmp : α → α → Ordering) [Std.OrientedCmp cmp] {a b : α} :
    alike (fun a b => (cmp a b).isLE) a b = true ↔ cmp a b = .eq := by
  have swapped : cmp b a = (cmp a b).swap := Std.OrientedCmp.eq_swap
  rw [alike_iff, swapped]
  cases cmp a b <;> decide

/-- Elements that all differ increase strictly once they are sorted. -/
theorem pairwise_lt_mergeSort (cmp : α → α → Ordering) [Std.TransCmp cmp] {l : List α}
    (differ : l.Pairwise fun a b => cmp a b ≠ .eq) :
    (l.mergeSort fun a b => (cmp a b).isLE).Pairwise fun a b => cmp a b = .lt := by
  have sorted : (l.mergeSort fun a b => (cmp a b).isLE).Pairwise fun a b =>
      (cmp a b).isLE = true :=
    List.pairwise_mergeSort (fun _ _ _ => Std.TransCmp.isLE_trans) (isLE_total cmp) l
  have symmetric {a b : α} (h : cmp a b ≠ .eq) : cmp b a ≠ .eq := by
    intro same
    exact h (Std.OrientedCmp.eq_comm.mp same)
  have stillDiffer := ((List.mergeSort_perm l fun a b => (cmp a b).isLE).pairwise_iff
    symmetric).mpr differ
  apply (sorted.and stillDiffer).imp
  intro a b ⟨le, differ⟩
  cases order : cmp a b with
  | lt => rfl
  | eq => exact absurd order differ
  | gt =>
    rw [order] at le
    cases le

theorem mem_iff_of_filter_alike (refl : ∀ a, le a a = true) {s t : List α}
    (same : ∀ a, s.filter (alike le a) = t.filter (alike le a)) (a : α) : a ∈ s ↔ a ∈ t := by
  have self : alike le a a = true := alike_iff.mpr ⟨refl a, refl a⟩
  have h := congrArg (a ∈ ·) (same a)
  simpa [self] using h

theorem le_of_mem_sorted (refl : ∀ a, le a a = true) {a b : α} {s : List α}
    (sorted : (a :: s).Pairwise (le · · = true)) (member : b ∈ a :: s) : le a b = true := by
  rcases List.mem_cons.mp member with here | later
  · rw [here]
    exact refl a
  · exact (List.pairwise_cons.mp sorted).1 b later

/-- A sorted list is determined by its lists of like elements. -/
theorem eq_of_filter_alike (refl : ∀ a, le a a = true) {s t : List α}
    (sorted : s.Pairwise (le · · = true)) (sorted' : t.Pairwise (le · · = true))
    (same : ∀ a, s.filter (alike le a) = t.filter (alike le a)) : s = t := by
  have mem_iff := mem_iff_of_filter_alike refl same
  induction s generalizing t with
  | nil =>
    apply Eq.symm
    apply List.eq_nil_iff_forall_not_mem.mpr
    intro a member
    exact List.not_mem_nil ((mem_iff a).mpr member)
  | cons a s ih =>
    cases t with
    | nil => exact absurd ((mem_iff a).mp List.mem_cons_self) List.not_mem_nil
    | cons b t =>
      have before : le a b = true :=
        le_of_mem_sorted refl sorted ((mem_iff b).mpr List.mem_cons_self)
      have after : le b a = true :=
        le_of_mem_sorted refl sorted' ((mem_iff a).mp List.mem_cons_self)
      have first := same a
      rw [List.filter_cons_of_pos (alike_iff.mpr ⟨refl a, refl a⟩),
        List.filter_cons_of_pos (alike_iff.mpr ⟨before, after⟩), List.cons.injEq] at first
      obtain ⟨rfl, -⟩ := first
      have rest (c : α) : s.filter (alike le c) = t.filter (alike le c) := by
        have h := same c
        simp only [List.filter_cons] at h
        split at h
        · exact List.tail_eq_of_cons_eq h
        · exact h
      rw [ih (List.pairwise_cons.mp sorted).2 (List.pairwise_cons.mp sorted').2 rest
        (mem_iff_of_filter_alike refl rest)]

theorem mergeSort_eq_of_filter_alike
    (trans : ∀ a b c, le a b = true → le b c = true → le a c = true)
    (total : ∀ a b, (le a b || le b a) = true) {l l' : List α}
    (same : ∀ a, l.filter (alike le a) = l'.filter (alike le a)) :
    l.mergeSort le = l'.mergeSort le := by
  have refl (a : α) : le a a = true := by simpa using total a a
  apply eq_of_filter_alike refl (List.pairwise_mergeSort trans total l)
    (List.pairwise_mergeSort trans total l')
  intro a
  rw [filter_mergeSort trans total, filter_mergeSort trans total, same]

/-- A stable sort does not touch the lists of like elements. -/
theorem filter_alike_mergeSort
    (trans : ∀ a b c, le a b = true → le b c = true → le a c = true)
    (total : ∀ a b, (le a b || le b a) = true) (a : α) (l : List α) :
    (l.mergeSort le).filter (alike le a) = l.filter (alike le a) := by
  rw [filter_mergeSort trans total]
  apply List.mergeSort_of_pairwise
  apply List.pairwise_of_forall_mem_list
  intro b member c member'
  have before := alike_iff.mp (List.mem_filter.mp member).2
  have after := alike_iff.mp (List.mem_filter.mp member').2
  exact trans b a c before.2 after.1

theorem mergeSort_eq_iff_filter_alike
    (trans : ∀ a b c, le a b = true → le b c = true → le a c = true)
    (total : ∀ a b, (le a b || le b a) = true) {l l' : List α} :
    l.mergeSort le = l'.mergeSort le ↔ ∀ a, l.filter (alike le a) = l'.filter (alike le a) := by
  constructor
  · intro same a
    rw [← filter_alike_mergeSort trans total a l, same, filter_alike_mergeSort trans total]
  · exact mergeSort_eq_of_filter_alike trans total

/-- No element of one block is like one of the other. -/
def Apart (le : α → α → Bool) (block other : List α) : Prop :=
  ∀ a ∈ block, ∀ b ∈ other, alike le a b = false

theorem Apart.symm {block other : List α} (h : Apart le block other) : Apart le other block := by
  intro a inOther b inBlock
  rw [alike, Bool.and_comm]
  exact h b inBlock a inOther

theorem filter_alike_append_comm
    (trans : ∀ a b c, le a b = true → le b c = true → le a c = true) {block other : List α}
    (apart : Apart le block other) (a : α) :
    block.filter (alike le a) ++ other.filter (alike le a) =
      other.filter (alike le a) ++ block.filter (alike le a) := by
  by_cases empty : block.filter (alike le a) = []
  · rw [empty, List.nil_append, List.append_nil]
  · obtain ⟨b, member⟩ := List.exists_mem_of_ne_nil _ empty
    obtain ⟨inBlock, like⟩ := List.mem_filter.mp member
    have none : other.filter (alike le a) = [] := by
      apply List.filter_eq_nil_iff.mpr
      intro c inOther like'
      have first := alike_iff.mp like
      have second := alike_iff.mp like'
      have both : alike le b c = true := alike_iff.mpr
        ⟨trans _ _ _ first.2 second.1, trans _ _ _ second.2 first.1⟩
      rw [apart b inBlock c inOther] at both
      cases both
    rw [none, List.nil_append, List.append_nil]

/-- Blocks of which any two can change places come to the same list in any order. -/
theorem flatMap_eq_of_perm {β : Type} {f : β → List α} {l l' : List β} (perm : l.Perm l')
    (commute : l.Pairwise fun x y => f x ++ f y = f y ++ f x) : l.flatMap f = l'.flatMap f := by
  induction perm with
  | nil => rfl
  | cons x _ ih =>
    rw [List.flatMap_cons, List.flatMap_cons, ih (List.pairwise_cons.mp commute).2]
  | swap x y l =>
    have swapped : f y ++ f x = f x ++ f y := (List.pairwise_cons.mp commute).1 x List.mem_cons_self
    simp only [List.flatMap_cons, ← List.append_assoc, swapped]
  | trans perm _ ih ih' =>
    rw [ih commute]
    apply ih'
    exact (perm.pairwise_iff fun same => same.symm).mp commute

/-- The order of the blocks does not matter for the sorted list. -/
theorem mergeSort_flatMap_of_perm {β : Type}
    (trans : ∀ a b c, le a b = true → le b c = true → le a c = true)
    (total : ∀ a b, (le a b || le b a) = true) {l l' : List β} {f : β → List α}
    (perm : l.Perm l') (apart : l.Pairwise fun x y => x = y ∨ Apart le (f x) (f y)) :
    (l.flatMap f).mergeSort le = (l'.flatMap f).mergeSort le := by
  apply mergeSort_eq_of_filter_alike trans total
  intro a
  rw [List.filter_flatMap, List.filter_flatMap]
  apply flatMap_eq_of_perm perm
  apply apart.imp
  intro x y h
  rcases h with same | apart
  · rw [same]
  · exact filter_alike_append_comm trans apart a

/-- Blocks come in their own order, where every element of a block goes before those of the blocks
after it. -/
theorem mergeSort_flatMap_eq {β : Type} (cmp : α → α → Ordering) [Std.TransCmp cmp]
    {blocks ordered : List β} {f : β → List α} (perm : ordered.Perm blocks)
    (inner : ∀ x ∈ ordered, (f x).Pairwise fun a b => (cmp a b).isLE = true)
    (outer : ordered.Pairwise fun x y => ∀ a ∈ f x, ∀ b ∈ f y, cmp a b = .lt) :
    ((blocks.flatMap f).mergeSort fun a b => (cmp a b).isLE) = ordered.flatMap f := by
  have apart : ordered.Pairwise fun x y =>
      x = y ∨ Apart (fun a b => (cmp a b).isLE) (f x) (f y) := by
    apply outer.imp
    intro x y before
    refine .inr fun a ofX b ofY => ?_
    rw [Bool.eq_false_iff, ne_eq, alike_isLE_iff, before a ofX b ofY]
    exact Ordering.noConfusion
  rw [← mergeSort_flatMap_of_perm (fun _ _ _ => Std.TransCmp.isLE_trans) (isLE_total cmp) perm
    apart]
  apply List.mergeSort_of_pairwise
  rw [List.pairwise_flatMap]
  refine ⟨inner, outer.imp fun before a ofX b ofY => ?_⟩
  rw [before a ofX b ofY]
  rfl

/-- A list that increases strictly is what any order of it sorts to. -/
theorem mergeSort_eq_of_increasing (cmp : α → α → Ordering) [Std.TransCmp cmp]
    {l increasing : List α} (perm : increasing.Perm l)
    (h : increasing.Pairwise fun a b => cmp a b = .lt) :
    (l.mergeSort fun a b => (cmp a b).isLE) = increasing := by
  have single : ((l.flatMap ([·])).mergeSort fun a b => (cmp a b).isLE) =
      increasing.flatMap ([·]) := by
    apply mergeSort_flatMap_eq cmp perm fun a _ => List.pairwise_singleton _ a
    apply h.imp
    intro a b before a' ofA b' ofB
    rw [List.mem_singleton.mp ofA, List.mem_singleton.mp ofB, before]
  simpa using single

/-- Numbered elements in blocks, where the order looks at the blocks before it looks at the numbers:
the blocks come in their order, with their elements as they are numbered. -/
theorem mergeSort_numbered {β γ : Type} {cmp : α → α → Ordering} [Std.TransCmp cmp]
    (blockCmp : β → β → Ordering) [Std.TransCmp blockCmp] {number : Nat → Int}
    (increases : ∀ i j, i < j → number i ≤ number j) {parts : β → List γ}
    {element : β → γ → Nat → α}
    (compared : ∀ x y c d i j, cmp (element x c i) (element y d j) =
      (blockCmp x y).then (compare (number i) (number j)))
    {blocks : List β} (differ : blocks.Pairwise fun x y => blockCmp x y ≠ .eq) :
    (blocks.flatMap fun x => (parts x).zipIdx.map fun (c, i) => element x c i).mergeSort
        (fun a b => (cmp a b).isLE) =
      (blocks.mergeSort fun x y => (blockCmp x y).isLE).flatMap fun x =>
        (parts x).zipIdx.map fun (c, i) => element x c i := by
  apply mergeSort_flatMap_eq cmp (List.mergeSort_perm _ _)
  · intro x _
    have same : blockCmp x x = .eq := Std.ReflCmp.compare_self
    rw [List.pairwise_map]
    apply (pairwise_zipIdx_lt (parts x)).imp
    intro ⟨c, i⟩ ⟨d, j⟩ (before : i < j)
    rw [compared, same, Ordering.eq_then, Int.isLE_compare]
    exact increases i j before
  · apply (pairwise_lt_mergeSort blockCmp differ).imp
    intro x y before a ofX b ofY
    obtain ⟨⟨c, i⟩, -, rfl⟩ := List.mem_map.mp ofX
    obtain ⟨⟨d, j⟩, -, rfl⟩ := List.mem_map.mp ofY
    rw [compared, before]
    rfl

/-- Where only equal elements are alike, any order of a list sorts to the same. -/
theorem mergeSort_eq_of_perm
    (trans : ∀ a b c, le a b = true → le b c = true → le a c = true)
    (total : ∀ a b, (le a b || le b a) = true) {l l' : List α}
    (antisymm : ∀ a ∈ l, ∀ b ∈ l, alike le a b = true → a = b) (perm : l.Perm l') :
    l.mergeSort le = l'.mergeSort le := by
  apply List.Perm.eq_of_pairwise _ (List.pairwise_mergeSort trans total l)
    (List.pairwise_mergeSort trans total l')
  · exact (List.mergeSort_perm l le).trans (perm.trans (List.mergeSort_perm l' le).symm)
  · intro a b member member' before after
    refine antisymm a (List.mem_mergeSort.mp member) b ?_ (alike_iff.mpr ⟨before, after⟩)
    exact perm.mem_iff.mpr (List.mem_mergeSort.mp member')

/-- Only the order of the elements of the list matters. -/
theorem mergeSort_congr {other : α → α → Bool} {l : List α}
    (same : ∀ a ∈ l, ∀ b ∈ l, le a b = other a b) : l.mergeSort le = l.mergeSort other := by
  simpa using List.map_mergeSort (f := id) same

end

namespace ResultTable

/-- The cell of a row in the column of that name. -/
def cellIn? (table : ResultTable) (row : Row) (name : String) : Option Value :=
  (table.columnIndex? name).bind (row[·]?)

theorem cellIn?_of_columns {table : ResultTable} {columns : List ResultColumn}
    (made : table.columns = columns) (row : Row) (name : String) :
    table.cellIn? row name = (columns.findIdx? (·.name == name)).bind (row[·]?) := by
  rw [cellIn?, columnIndex?, made]

/-- The rows whose cell in the column of that name is the given one. -/
def restrict (table : ResultTable) (name : String) (value : Value) : ResultTable :=
  { table with
    rows := table.rows.filter fun row => (table.columnIndex? name).any (row[·]? == some value) }

theorem restrict_sortRows (table : ResultTable) (name : String) (value : Value)
    (positions : List Nat) (collation : Collation) :
    (table.sortRows positions collation).restrict name value =
      (table.restrict name value).sortRows positions collation := by
  simp only [restrict, sortRows, columnIndex?, mk.injEq, true_and]
  exact filter_mergeSort (collation.rowLE_trans positions) (collation.rowLE_total positions) _ _

/-- Rows that all differ in the order increase strictly once they are sorted. -/
theorem sortRows_increasing {table : ResultTable} {positions : List Nat} {collation : Collation}
    (differ : table.rows.Pairwise fun a b => collation.compareRows positions a b ≠ .eq) :
    (table.sortRows positions collation).rows.Pairwise fun a b =>
      collation.compareRows positions a b = .lt := by
  exact pairwise_lt_mergeSort (collation.compareRows positions) differ

end ResultTable

theorem Collation.alike_rowLE_iff (collation : Collation) (positions : List Nat) {a b : Row} :
    alike (collation.rowLE positions) a b = true ↔ collation.compareRows positions a b = .eq :=
  alike_isLE_iff (collation.compareRows positions)

/-- No two names are equal under a collation, so it has one way to sort them. -/
theorem Collation.sort_eq_of_perm (collation : Collation) {names names' : List String}
    (perm : names.Perm names') : collation.sort names = collation.sort names' := by
  apply mergeSort_eq_of_perm (fun _ _ _ => Std.TransCmp.isLE_trans)
    (isLE_total collation.compare) _ perm
  intro a _ b _ same
  exact collation.compare_eq_eq_iff.mp ((alike_isLE_iff collation.compare).mp same)

/-- Where all rows of a block tell its names, and no two blocks have the same names, it does not
matter in which order the blocks come. -/
theorem Collation.mergeSort_blocks (collation : Collation) {β : Type} {positions : List Nat}
    {rows : β → List Row} (names : β → String × String) {first second : Nat}
    (looked : first ∈ positions ∧ second ∈ positions)
    (tells : ∀ block, ∀ row ∈ rows block, row[first]? = some (.varchar (names block).1) ∧
      row[second]? = some (.varchar (names block).2))
    {l l' : List β} (perm : l.Perm l')
    (identify : ∀ x ∈ l, ∀ y ∈ l, names x = names y → x = y) :
    (l.flatMap rows).mergeSort (collation.rowLE positions) =
      (l'.flatMap rows).mergeSort (collation.rowLE positions) := by
  apply mergeSort_flatMap_of_perm (collation.rowLE_trans positions)
    (collation.rowLE_total positions) perm
  apply List.pairwise_of_forall_mem_list
  intro x inList y inList'
  by_cases same : names x = names y
  · exact .inl (identify x inList y inList' same)
  · apply Or.inr
    intro a ofX b ofY
    rw [Bool.eq_false_iff, ne_eq, alike_rowLE_iff]
    intro equal
    apply same
    exact Prod.ext
      (collation.text_eq_of_compareRows equal first looked.1 (tells x a ofX).1 (tells y b ofY).1)
      (collation.text_eq_of_compareRows equal second looked.2 (tells x a ofX).2 (tells y b ofY).2)

theorem Collation.compareRows_cons_of_eq (collation : Collation) {position : Nat}
    (positions : List Nat) {a b : Row} (same : a.getD position .null = b.getD position .null) :
    collation.compareRows (position :: positions) a b = collation.compareRows positions a b := by
  have equal : collation.compareCells (b.getD position .null) (b.getD position .null) = .eq :=
    Std.ReflCmp.compare_self
  rw [compareRows, same, equal, Ordering.eq_then]

end CatalogViews
