import CatalogViews.Proofs.StableSort

/-!
# Sorted result tables

Sorting a result table by the cells at some positions gives the one table with the same rows in
which the first cells that differ never go down, and in which rows without such cells stand as they
stood before (`ResultTable.IsStableSort`). The order of rows is said of the cells that the rows
have, so it takes rows that have a cell at each of the positions.

Sorting a sorted table again sorts by the later positions first: rows that are alike there keep the
order of the sort before (`mergeSort_mergeSort`).
-/

namespace CatalogViews

section

variable {α : Type} {cmp cmp₁ cmp₂ : α → α → Ordering} [Std.TransCmp cmp] [Std.TransCmp cmp₁]

/-- Elements in order, of which those that are alike are in a second order, are in the order that
takes one after the other. -/
theorem pairwise_compareLex {l : List α} (first : l.Pairwise fun a b => (cmp₁ a b).isLE = true)
    (second : ∀ a, (l.filter fun b => cmp₁ a b == .eq).Pairwise
      fun b c => (cmp₂ b c).isLE = true) :
    l.Pairwise fun a b => (compareLex cmp₁ cmp₂ a b).isLE = true := by
  induction l with
  | nil => exact .nil
  | cons a l ih =>
    rw [List.pairwise_cons] at first ⊢
    constructor
    · intro b member
      have before := first.1 b member
      cases order : cmp₁ a b with
      | lt => simp [compareLex, order]
      | eq =>
        have self : cmp₁ a a = .eq := Std.ReflCmp.compare_self
        have alikes := second a
        rw [List.filter_cons_of_pos (by simp [self]), List.pairwise_cons] at alikes
        have after := alikes.1 b (List.mem_filter.mpr ⟨member, by simp [order]⟩)
        simpa [compareLex, order] using after
      | gt =>
        rw [order] at before
        cases before
    · refine ih first.2 fun c => ?_
      exact (second c).sublist ((List.sublist_cons_self a l).filter _)

theorem alike_isLE (a : α) : alike (fun b c => (cmp b c).isLE) a = fun b => cmp a b == .eq := by
  funext b
  rw [Bool.eq_iff_iff, beq_iff_eq, alike_isLE_iff]

/-- The lists of like elements of a sort are those of the list. -/
theorem filter_eq_mergeSort (a : α) (l : List α) :
    ((l.mergeSort fun b c => (cmp b c).isLE).filter fun b => cmp a b == .eq) =
      l.filter fun b => cmp a b == .eq := by
  rw [← alike_isLE a]
  exact filter_alike_mergeSort (fun _ _ _ => Std.TransCmp.isLE_trans) (isLE_total cmp) a l

/-- The sort of a list is the one permutation in order that keeps the order of like elements. -/
theorem eq_mergeSort_iff {l sorted : List α} :
    sorted = (l.mergeSort fun a b => (cmp a b).isLE) ↔
      sorted.Perm l ∧ (sorted.Pairwise fun a b => (cmp a b).isLE = true) ∧
        ∀ a ∈ l, (sorted.filter fun b => cmp a b == .eq) = l.filter fun b => cmp a b == .eq := by
  have ordered : (l.mergeSort fun a b => (cmp a b).isLE).Pairwise
      fun a b => (cmp a b).isLE = true :=
    List.pairwise_mergeSort (fun _ _ _ => Std.TransCmp.isLE_trans) (isLE_total cmp) l
  constructor
  · rintro rfl
    exact ⟨List.mergeSort_perm l _, ordered, fun a _ => filter_eq_mergeSort a l⟩
  · intro ⟨perm, ordered', same⟩
    refine eq_of_filter_alike (fun a => ?_) ordered' ordered fun a => ?_
    · have self : cmp a a = .eq := Std.ReflCmp.compare_self
      rw [self]
      rfl
    · rw [alike_isLE a, filter_eq_mergeSort]
      by_cases found : ∃ b ∈ l, cmp a b = .eq
      · obtain ⟨b, member, equal⟩ := found
        have asIn (c : α) : cmp a c = cmp b c := Std.TransCmp.congr_left equal
        simp only [asIn]
        exact same b member
      · have none : (l.filter fun b => cmp a b == .eq) = [] := by
          apply List.filter_eq_nil_iff.mpr
          intro b member equal
          exact found ⟨b, member, beq_iff_eq.mp equal⟩
        rw [none, ← List.perm_nil, ← none]
        exact perm.filter _

variable [Std.TransCmp cmp₂]

/-- A sort of a sorted list sorts by both orders, the later one first. -/
theorem mergeSort_mergeSort (l : List α) :
    ((l.mergeSort fun a b => (cmp₂ a b).isLE).mergeSort fun a b => (cmp₁ a b).isLE) =
      l.mergeSort fun a b => (compareLex cmp₁ cmp₂ a b).isLE := by
  refine eq_mergeSort_iff.mpr ⟨?_, ?_, fun a _ => ?_⟩
  · exact (List.mergeSort_perm _ _).trans (List.mergeSort_perm l _)
  · apply pairwise_compareLex
    · exact List.pairwise_mergeSort (fun _ _ _ => Std.TransCmp.isLE_trans) (isLE_total cmp₁) _
    · intro a
      rw [filter_eq_mergeSort]
      exact (List.pairwise_mergeSort (fun _ _ _ => Std.TransCmp.isLE_trans)
        (isLE_total cmp₂) l).filter _
  · have both : (fun b => compareLex cmp₁ cmp₂ a b == .eq) =
        fun b => (cmp₁ a b == .eq) && (cmp₂ a b == .eq) := by
      funext b
      rw [Bool.eq_iff_iff, Bool.and_eq_true, beq_iff_eq, beq_iff_eq, beq_iff_eq, compareLex,
        Ordering.then_eq_eq]
    have swap (m : List α) : (m.filter fun b => cmp₂ a b == .eq).filter (fun b => cmp₁ a b == .eq) =
        (m.filter fun b => cmp₁ a b == .eq).filter fun b => cmp₂ a b == .eq := by
      simp only [List.filter_filter, Bool.and_comm]
    rw [both, ← List.filter_filter, swap, filter_eq_mergeSort, ← swap, filter_eq_mergeSort,
      List.filter_filter]

end

namespace Collation

variable {collation : Collation} {positions : List Nat} {a b : Row}

/-- Two rows have cells at the given positions, which are equal in the order of cells. -/
def agreesAt (collation : Collation) (positions : List Nat) (a b : Row) : Bool :=
  positions.all fun position =>
    match a[position]?, b[position]? with
    | some x, some y => collation.compareCells x y == .eq
    | _, _ => false

/-- At the first of the positions at which two rows do not agree, the cell of the first row goes
before that of the second. -/
def PrecedesAt (collation : Collation) (positions : List Nat) (a b : Row) : Prop :=
  ∃ agreed position later, positions = agreed ++ position :: later ∧
    collation.agreesAt agreed a b = true ∧
    ∃ x y, a[position]? = some x ∧ b[position]? = some y ∧ collation.compareCells x y = .lt

theorem agreesAt_cons {position : Nat} {x y : Value} (first : a[position]? = some x)
    (second : b[position]? = some y) :
    collation.agreesAt (position :: positions) a b = true ↔
      collation.compareCells x y = .eq ∧ collation.agreesAt positions a b = true := by
  rw [agreesAt, List.all_cons, first, second, Bool.and_eq_true, beq_iff_eq]
  rfl

theorem precedesAt_cons {position : Nat} {x y : Value} (first : a[position]? = some x)
    (second : b[position]? = some y) :
    collation.PrecedesAt (position :: positions) a b ↔
      collation.compareCells x y = .lt ∨
        collation.compareCells x y = .eq ∧ collation.PrecedesAt positions a b := by
  constructor
  · intro ⟨agreed, decisive, later, split, agree, x', y', first', second', less⟩
    cases agreed with
    | nil =>
      obtain ⟨rfl, rfl⟩ := List.cons.inj split
      rw [first] at first'
      rw [second] at second'
      cases first'
      cases second'
      exact .inl less
    | cons other agreed =>
      obtain ⟨rfl, rfl⟩ := List.cons.inj split
      obtain ⟨equal, agree⟩ := (agreesAt_cons first second).mp agree
      exact .inr ⟨equal, agreed, decisive, later, rfl, agree, x', y', first', second', less⟩
  · intro h
    rcases h with less | ⟨equal, agreed, decisive, later, rfl, agree, cells⟩
    · exact ⟨[], position, positions, rfl, rfl, x, y, first, second, less⟩
    · exact ⟨position :: agreed, decisive, later, rfl,
        (agreesAt_cons first second).mpr ⟨equal, agree⟩, cells⟩

/-- Rows that have the cells are compared by them. -/
theorem compareRows_iff (first : ∀ position ∈ positions, position < a.length)
    (second : ∀ position ∈ positions, position < b.length) :
    (collation.compareRows positions a b = .eq ↔ collation.agreesAt positions a b = true) ∧
      (collation.compareRows positions a b = .lt ↔ collation.PrecedesAt positions a b) := by
  induction positions with
  | nil => simp [compareRows, agreesAt, PrecedesAt]
  | cons position positions ih =>
    rw [List.forall_mem_cons] at first second
    obtain ⟨equal, less⟩ := ih first.2 second.2
    have cell := List.getElem?_eq_getElem first.1
    have cell' := List.getElem?_eq_getElem second.1
    rw [agreesAt_cons cell cell', precedesAt_cons cell cell', compareRows,
      List.getD_eq_getElem?_getD, List.getD_eq_getElem?_getD, cell, cell', Option.getD_some,
      Option.getD_some, Ordering.then_eq_eq, Ordering.then_eq_lt, equal, less]
    exact ⟨Iff.rfl, Iff.rfl⟩

theorem isLE_compareRows_iff (first : ∀ position ∈ positions, position < a.length)
    (second : ∀ position ∈ positions, position < b.length) :
    (collation.compareRows positions a b).isLE = true ↔
      collation.agreesAt positions a b = true ∨ collation.PrecedesAt positions a b := by
  obtain ⟨equal, less⟩ : (collation.compareRows positions a b = .eq ↔ _) ∧ _ :=
    compareRows_iff first second
  rw [← equal, ← less, Ordering.isLE_iff_eq_lt_or_eq_eq, or_comm]

theorem compareRows_append (positions later : List Nat) :
    collation.compareRows (positions ++ later) =
      compareLex (collation.compareRows positions) (collation.compareRows later) := by
  funext a b
  induction positions with
  | nil => rfl
  | cons position positions ih =>
    rw [List.cons_append, compareRows, ih, compareLex, compareLex, compareRows, Ordering.then_assoc]

end Collation

namespace ResultTable

variable {table : ResultTable} {collation : Collation} {positions later : List Nat}

/-- Every row has one cell for each column. -/
def IsFull (table : ResultTable) : Prop :=
  ∀ row ∈ table.rows, row.length = table.columns.length

/-- A table has the rows of another one, in the order of their cells at the given positions. Rows
that agree at all positions stand in the order of the other table. -/
structure IsStableSort (collation : Collation) (positions : List Nat)
    (table sorted : ResultTable) : Prop where
  columns : sorted.columns = table.columns
  perm : sorted.rows.Perm table.rows
  ordered : sorted.rows.Pairwise fun a b =>
    collation.agreesAt positions a b = true ∨ collation.PrecedesAt positions a b
  stable : ∀ row ∈ table.rows, sorted.rows.filter (collation.agreesAt positions row) =
    table.rows.filter (collation.agreesAt positions row)

/-- The sort of a table is the one table that is sorted stably. -/
theorem isStableSort_iff {sorted : ResultTable} (full : table.IsFull)
    (inRange : ∀ position ∈ positions, position < table.columns.length) :
    table.IsStableSort collation positions sorted ↔
      sorted = table.sortRows positions collation := by
  have hasCells : ∀ row ∈ table.rows, ∀ position ∈ positions, position < row.length := by
    intro row member position looked
    rw [full row member]
    exact inRange position looked
  have likes {rows : List Row} (perm : rows.Perm table.rows) {row : Row}
      (member : row ∈ table.rows) :
      rows.filter (collation.agreesAt positions row) =
        rows.filter fun other => collation.compareRows positions row other == .eq := by
    apply List.filter_congr
    intro other member'
    rw [Bool.eq_iff_iff, beq_iff_eq]
    exact (Collation.compareRows_iff (hasCells row member)
      (hasCells other (perm.mem_iff.mp member'))).1.symm
  have inOrder {rows : List Row} (perm : rows.Perm table.rows) :
      (rows.Pairwise fun a b =>
          collation.agreesAt positions a b = true ∨ collation.PrecedesAt positions a b) ↔
        rows.Pairwise fun a b => (collation.compareRows positions a b).isLE = true := by
    apply List.Pairwise.iff_of_mem
    intro a b member member'
    exact (Collation.isLE_compareRows_iff (hasCells a (perm.mem_iff.mp member))
      (hasCells b (perm.mem_iff.mp member'))).symm
  have sortedRows : sorted = table.sortRows positions collation ↔
      sorted.columns = table.columns ∧ sorted.rows = table.rows.mergeSort fun a b =>
        (collation.compareRows positions a b).isLE := by
    cases sorted
    rw [sortRows, mk.injEq]
    rfl
  rw [sortedRows, eq_mergeSort_iff]
  constructor
  · intro h
    refine ⟨h.columns, h.perm, (inOrder h.perm).mp h.ordered, fun row member => ?_⟩
    rw [← likes h.perm member, ← likes (.refl _) member]
    exact h.stable row member
  · rintro ⟨columns, perm, ordered, stable⟩
    refine ⟨columns, perm, (inOrder perm).mpr ordered, fun row member => ?_⟩
    rw [likes perm member, likes (.refl _) member]
    exact stable row member

/-- Sorting a full table gives the one table that is sorted stably, and sorting a sorted table sorts
by the positions of both sorts, those of the second one first. -/
theorem sortRows_stable (full : table.IsFull)
    (inRange : ∀ position ∈ positions, position < table.columns.length) :
    (∀ sorted, table.IsStableSort collation positions sorted ↔
        sorted = table.sortRows positions collation) ∧
      ∀ later, (table.sortRows later collation).sortRows positions collation =
        table.sortRows (positions ++ later) collation := by
  refine ⟨fun sorted => isStableSort_iff full inRange, fun later => ?_⟩
  have rows : (table.rows.mergeSort (collation.rowLE later)).mergeSort
      (collation.rowLE positions) = table.rows.mergeSort fun a b =>
        (compareLex (collation.compareRows positions) (collation.compareRows later) a b).isLE :=
    mergeSort_mergeSort table.rows
  rw [← Collation.compareRows_append] at rows
  exact congrArg (ResultTable.mk table.columns) rows

/-- Null goes first, integers of two widths and texts of two kinds agree, and the rows that agree
keep their order. -/
theorem sortRows_stable_of_mixed_cells :
    let columns : List ResultColumn := [⟨"SEQ", .integer⟩, ⟨"NAME", .varchar none⟩]
    let table : ResultTable := ⟨columns,
      [[.bigint 2, .varchar "b"], [.smallint 2, .character "a"], [.integer 2, .character "b"],
        [.integer 1, .varchar "c"], [.null, .varchar "d"], [.smallint 2, .varchar "a"]]⟩
    let bySequence : ResultTable := ⟨columns,
      [[.null, .varchar "d"], [.integer 1, .varchar "c"], [.bigint 2, .varchar "b"],
        [.smallint 2, .character "a"], [.integer 2, .character "b"], [.smallint 2, .varchar "a"]]⟩
    table.IsFull ∧ (∀ position ∈ [0], position < table.columns.length) ∧
      table.IsStableSort .binary [0] bySequence ∧ bySequence = table.sortRows [0] .binary ∧
      (table.sortRows [1] .binary).sortRows [0] .binary = table.sortRows [0, 1] .binary := by
  intro columns table bySequence
  have full : table.IsFull := by simp [table, IsFull, columns]
  have inRange : ∀ position ∈ [0], position < table.columns.length := by simp [table, columns]
  have stable : table.IsStableSort .binary [0] bySequence := by
    refine ⟨rfl, by decide +kernel, ?_, by decide +kernel⟩
    have hasCells : ∀ row ∈ bySequence.rows, ∀ position ∈ [0], position < row.length := by
      decide +kernel
    have ordered : bySequence.rows.Pairwise fun a b =>
        (Collation.binary.compareRows [0] a b).isLE = true := by decide +kernel
    exact ordered.imp_of_mem fun member member' le =>
      (Collation.isLE_compareRows_iff (hasCells _ member) (hasCells _ member')).mp le
  obtain ⟨unique, again⟩ : (∀ sorted, table.IsStableSort .binary [0] sorted ↔ _) ∧ _ :=
    sortRows_stable full inRange
  exact ⟨full, inRange, stable, (unique bySequence).mp stable, again [1]⟩

end ResultTable

end CatalogViews
