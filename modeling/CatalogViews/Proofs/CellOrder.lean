import CatalogViews.Value.ResultTable
import Mathlib.Algebra.Group.Int.Defs
import Mathlib.Algebra.Group.Nat.Defs
import Mathlib.Data.List.Basic

/-!
# The order of cells and rows

Texts, values, cells and rows are ordered by comparisons that are written out case by case. Each of
them compares a few keys one after the other: lists of code points, the family of a value, a number.
So each is a total preorder, which the instances of `Std.TransCmp` say. By the order of texts a
binary search finds exactly what an increasing list has (`Text.search?_eq_some_iff`).
-/

namespace CatalogViews

open Number

theorem then_of_ne_eq {first second : Ordering} (differ : first ≠ .eq) :
    first.then second = first := by
  cases first with
  | lt => rfl
  | eq => exact absurd rfl differ
  | gt => rfl

/-- Of two elements one may stand before the other. -/
theorem isLE_total {α : Type} (cmp : α → α → Ordering) [Std.OrientedCmp cmp] (a b : α) :
    ((cmp a b).isLE || (cmp b a).isLE) = true := by
  have swapped : cmp b a = (cmp a b).swap := Std.OrientedCmp.eq_swap
  rw [swapped]
  cases cmp a b <;> rfl

/-- Of two comparisons in a row that do not go down the first difference decides. -/
theorem compare_eq_then {α : Type} (cmp : α → α → Ordering) [Std.TransCmp cmp] {a b c : α}
    (first : cmp a b ≠ .gt) (second : cmp b c ≠ .gt) : cmp a c = (cmp a b).then (cmp b c) := by
  cases order : cmp a b with
  | lt => exact Std.TransCmp.lt_of_lt_of_isLE order (Ordering.isLE_iff_ne_gt.mpr second)
  | eq => exact Std.TransCmp.congr_left order
  | gt => exact absurd order first

/-- The order of elements by something that is made of them. -/
theorem transCmp_comap {α β : Type} (cmp : β → β → Ordering) [Std.TransCmp cmp] (f : α → β) :
    Std.TransCmp fun a b => cmp (f a) (f b) where
  eq_swap := Std.OrientedCmp.eq_swap
  isLE_trans := Std.TransCmp.isLE_trans

namespace Text

/-- The code points of a text. -/
def codes (text : String) : List Nat :=
  text.toList.map Char.toNat

theorem compareChars_eq (a b : List Char) :
    compareChars a b = compare (a.map Char.toNat) (b.map Char.toNat) := by
  induction a generalizing b with
  | nil => cases b <;> simp [compareChars, List.compare_nil_cons]
  | cons c a ih =>
    cases b with
    | nil => simp [compareChars, List.compare_cons_nil]
    | cons d b => rw [compareChars, ih, List.map_cons, List.map_cons, List.compare_cons_cons]

theorem codes_inj {a b : String} : codes a = codes b ↔ a = b := by
  constructor
  · intro same
    have chars : a.toList = b.toList :=
      List.map_injective_iff.mpr (fun _ _ h => Char.toNat_inj.mp h) same
    exact String.toList_inj.mp chars
  · exact congrArg codes

theorem compareText_eq : compareText = compareOn codes := by
  funext a b
  exact compareChars_eq a.toList b.toList

instance : Std.TransCmp compareText := by
  rw [compareText_eq]
  infer_instance

theorem compareText_eq_eq_iff {a b : String} : compareText a b = .eq ↔ a = b := by
  rw [compareText_eq, compareOn, Std.LawfulEqCmp.compare_eq_iff_eq, codes_inj]

theorem compareText_getElem {entries : List String}
    (sorted : entries.Pairwise (compareText · · = .lt)) {i j : Nat} {a b : String}
    (atI : entries[i]? = some a) (atJ : entries[j]? = some b) : compareText a b = compare i j := by
  obtain ⟨insideI, rfl⟩ := List.getElem?_eq_some_iff.mp atI
  obtain ⟨insideJ, rfl⟩ := List.getElem?_eq_some_iff.mp atJ
  rw [List.pairwise_iff_getElem] at sorted
  rcases Nat.lt_trichotomy i j with less | rfl | greater
  · rw [sorted i j insideI insideJ less, Nat.compare_eq_lt.mpr less]
  · rw [compareText_eq_eq_iff.mpr rfl, Nat.compare_eq_eq.mpr rfl]
  · rw [Std.OrientedCmp.gt_of_lt (sorted j i insideJ insideI greater),
      Nat.compare_eq_gt.mpr greater]

/-- Halving finds a text of an increasing list at its position, and no other text. -/
theorem search?_eq_some_iff {entries : List String} {text : String} {i : Nat}
    (sorted : entries.Pairwise (compareText · · = .lt)) :
    search? entries text = some i ↔ entries[i]? = some text := by
  fun_induction search? entries text generalizing i with
  | case1 entries front halves =>
    rw [List.splitAt_eq, Prod.mk.injEq, List.drop_eq_nil_iff] at halves
    have nothing : entries = [] := List.eq_nil_of_length_eq_zero (by omega)
    simp [nothing]
  | case2 entries front entry back halves same =>
    have here : entries[front.length]? = some entry := by
      simp [eq_append_of_splitAt halves]
    rw [Option.some.injEq]
    constructor
    · rintro rfl
      rw [here, compareText_eq_eq_iff.mp same]
    · intro found
      have order := compareText_getElem sorted here found
      exact Nat.compare_eq_eq.mp (order.symm.trans same)
  | case3 entries front entry back halves after ih =>
    obtain rfl := eq_append_of_splitAt halves
    rw [ih (sorted.sublist (List.sublist_append_left _ _))]
    constructor
    · intro found
      rw [List.getElem?_append_left (List.getElem?_eq_some_iff.mp found).1, found]
    · intro found
      have order := compareText_getElem sorted (i := front.length) (a := entry) (by simp) found
      have inside : i < front.length := Nat.compare_eq_gt.mp (order.symm.trans after)
      rwa [List.getElem?_append_left inside] at found
  | case4 entries front entry back halves before ih =>
    obtain rfl := eq_append_of_splitAt halves
    have rest (j : Nat) : (front ++ entry :: back)[front.length + 1 + j]? = back[j]? := by
      rw [Nat.add_assoc, Nat.add_comm 1, List.getElem?_append_right (Nat.le_add_right _ _),
        Nat.add_sub_cancel_left, List.getElem?_cons_succ]
    have back_sorted := (List.pairwise_append.mp sorted).2.1.of_cons
    rw [Option.map_eq_some_iff]
    constructor
    · rintro ⟨j, found, rfl⟩
      rw [rest, (ih back_sorted).mp found]
    · intro found
      have order := compareText_getElem sorted (i := front.length) (a := entry) (by simp) found
      have later : front.length < i := Nat.compare_eq_lt.mp (order.symm.trans before)
      obtain ⟨j, rfl⟩ : ∃ j, i = front.length + 1 + j := Nat.exists_eq_add_of_le later
      rw [rest] at found
      exact ⟨j, (ih back_sorted).mpr found, rfl⟩

end Text

namespace Collation

/-- The code points that a collation compares before those of the text itself. -/
def foldedCodes : Collation → String → List Nat
  | binary, _ => []
  | caseInsensitive, text => (Text.upperChars text.toList).map Char.toNat

theorem compare_eq (collation : Collation) :
    collation.compare = compareLex (compareOn collation.foldedCodes) (compareOn Text.codes) := by
  funext a b
  cases collation with
  | binary => simp [Collation.compare, compareLex, compareOn, foldedCodes, Text.compareText_eq]
  | caseInsensitive =>
    simp only [Collation.compare, compareLex, compareOn, foldedCodes, Text.compareText_eq,
      Text.compareChars_eq]

instance (collation : Collation) : Std.TransCmp collation.compare := by
  rw [compare_eq]
  infer_instance

/-- No two names are equal under a collation. -/
theorem compare_eq_eq_iff (collation : Collation) {a b : String} :
    collation.compare a b = .eq ↔ a = b := by
  rw [compare_eq, compareLex, Ordering.then_eq_eq, compareOn, compareOn,
    Std.LawfulEqCmp.compare_eq_iff_eq, Std.LawfulEqCmp.compare_eq_iff_eq, Text.codes_inj]
  constructor
  · exact And.right
  · intro same
    rw [same]
    exact ⟨rfl, rfl⟩

end Collation

namespace Number.BinaryFloat

variable {format : FloatFormat}

/-- The place of a number in the order that puts those that are no numbers where their bits are. -/
def place (x : BinaryFloat format) : Int :=
  if x.isNaN then x.totalRank else x.rank

/-- The two orders place a number alike among those of greater magnitude. -/
theorem compare_totalRank_of_lt {x y : BinaryFloat format} (h : x.magnitude < y.magnitude) :
    compare x.totalRank y.totalRank = compare x.rank y.totalRank := by
  have total : -(x.magnitude : Int) - 1 ≤ x.totalRank ∧ x.totalRank ≤ x.magnitude := by
    unfold totalRank
    split <;> omega
  have numeric : -(x.magnitude : Int) - 1 ≤ x.rank ∧ x.rank ≤ x.magnitude := by
    unfold rank
    split <;> omega
  have outside : y.totalRank = -(y.magnitude : Int) - 1 ∨ y.totalRank = y.magnitude := by
    unfold totalRank
    split <;> simp
  rcases outside with below | above
  · rw [Int.compare_eq_gt.mpr (by omega), Int.compare_eq_gt.mpr (by omega)]
  · rw [Int.compare_eq_lt.mpr (by omega), Int.compare_eq_lt.mpr (by omega)]

/-- What is no number has a greater magnitude than all numbers. -/
theorem compare_place (x y : BinaryFloat format) :
    (x.compare? y).getD (x.totalCompare y) = compare x.place y.place := by
  by_cases hx : format.infinity < x.magnitude <;> by_cases hy : format.infinity < y.magnitude
  · simp [compare?, totalCompare, place, isNaN, hx, hy]
  · have smaller := compare_totalRank_of_lt (Nat.lt_of_le_of_lt (Nat.le_of_not_lt hy) hx)
    rw [Std.OrientedOrd.eq_swap, Std.OrientedOrd.eq_swap (a := y.rank)] at smaller
    simpa [compare?, totalCompare, place, isNaN, hx, hy] using smaller
  · have smaller := compare_totalRank_of_lt (Nat.lt_of_le_of_lt (Nat.le_of_not_lt hx) hy)
    simpa [compare?, totalCompare, place, isNaN, hx, hy] using smaller
  · simp [compare?, place, isNaN, hx, hy]

end Number.BinaryFloat

namespace Value

/-- The place of the kind of a value; all integers are of one kind. -/
def family : Value → Nat
  | integer _ => 4
  | smallint _ => 4
  | bigint _ => 4
  | value => value.kindRank

/-- The number that decides between two values of one family, zero where there is none. -/
def number : Value → Int
  | integer n => n.toInt
  | smallint n => n.toInt
  | bigint n => n.toInt
  | unsigned n => n.toNat
  | numeric x => x.place
  | real x => x.place
  | double x => x.place
  | boolean b => b.toNat
  | _ => 0

/-- The text of a value, empty where there is none. -/
def content (value : Value) : String :=
  value.text?.getD ""

variable {a b : Value}

theorem compare?_eq_none (kinds : a.kindRank ≠ b.kindRank) : a.compare? b = none := by
  cases a <;> cases b <;> first | rfl | exact absurd rfl kinds

theorem fallbackCompare_of_int64?_eq_none (kinds : a.kindRank ≠ b.kindRank)
    (beyond : a.int64? = none ∨ b.int64? = none) :
    a.fallbackCompare b = compare a.kindRank b.kindRank := by
  unfold fallbackCompare
  split
  · rename_i first second
    simp [first, second] at beyond
  · split
    · exact absurd rfl kinds
    · exact absurd rfl kinds
    · exact absurd rfl kinds
    · rfl

theorem le_maxValue_iff {n : UInt64} : n ≤ Int64.maxValue.toUInt64 ↔ n.toNat < 2 ^ 63 := by
  have greatest : Int64.maxValue.toUInt64.toNat = 2 ^ 63 - 1 := by decide
  rw [UInt64.le_iff_toNat_le, greatest]
  omega

/-- The bits of a word read with a sign. -/
theorem toInt_toInt64 (n : UInt64) :
    n.toInt64.toInt = if n.toNat < 2 ^ 63 then (n.toNat : Int) else n.toNat - 2 ^ 64 := by
  have bits : n.toInt64.toInt = n.toBitVec.toInt := rfl
  have value : n.toBitVec.toNat = n.toNat := rfl
  rw [bits, BitVec.toInt_eq_toNat_cond, value]
  split <;> split <;> omega

theorem toInt_toInt64_of_lt {n : UInt64} (small : n.toNat < 2 ^ 63) :
    n.toInt64.toInt = n.toNat := by
  rw [toInt_toInt64, if_pos small]

/-- An integer is a word of 64 bits unless it is unsigned and large. -/
theorem int64?_of_integer (h : a.family = 4) :
    (∃ n, a.int64? = some n ∧ n.toInt = a.number) ∨
      a.int64? = none ∧ a.kindRank = 4 ∧ 2 ^ 63 ≤ a.number := by
  cases a with
  | integer n => exact .inl ⟨_, rfl, Int32.toInt_toInt64 n⟩
  | smallint n => exact .inl ⟨_, rfl, Int16.toInt_toInt64 n⟩
  | bigint n => exact .inl ⟨n, rfl, rfl⟩
  | unsigned n =>
    by_cases small : n.toNat < 2 ^ 63
    · exact .inl ⟨n.toInt64, if_pos (le_maxValue_iff.mpr small), toInt_toInt64_of_lt small⟩
    · refine .inr ⟨if_neg (mt le_maxValue_iff.mp small), rfl, ?_⟩
      simp only [number]
      omega
  | _ => cases h

theorem number_lt (h : a.family = 4) (signed : a.kindRank ≠ 4) :
    a.kindRank < 4 ∧ a.number < 2 ^ 63 := by
  cases a with
  | integer n => exact ⟨by simp [kindRank], by simp only [number]; have := n.toInt_lt; omega⟩
  | smallint n => exact ⟨by simp [kindRank], by simp only [number]; have := n.toInt_lt; omega⟩
  | bigint n => exact ⟨by simp [kindRank], n.toInt_lt⟩
  | unsigned n => exact absurd rfl signed
  | _ => cases h

/-- Integers of two kinds compare by value: those that are no words of 64 bits are unsigned, and
above all others. -/
theorem fallbackCompare_of_integers (kinds : a.kindRank ≠ b.kindRank) (ha : a.family = 4)
    (hb : b.family = 4) : a.fallbackCompare b = compare a.number b.number := by
  rcases int64?_of_integer ha with ⟨m, first, value⟩ | ⟨beyond, rank, large⟩
  · rcases int64?_of_integer hb with ⟨n, second, value'⟩ | ⟨beyond, rank, large⟩
    · simp only [fallbackCompare, first, second, value, value']
    · obtain ⟨below, small⟩ := number_lt ha (rank ▸ kinds)
      rw [fallbackCompare_of_int64?_eq_none kinds (.inr beyond), rank,
        Nat.compare_eq_lt.mpr below, Int.compare_eq_lt.mpr (by omega)]
  · obtain ⟨below, small⟩ := number_lt hb fun same => kinds (rank.trans same.symm)
    rw [fallbackCompare_of_int64?_eq_none kinds (.inl beyond), rank,
      Nat.compare_eq_gt.mpr below, Int.compare_eq_gt.mpr (by omega)]

theorem int64?_eq_none (h : a.family ≠ 4) : a.int64? = none := by
  cases a <;> first | rfl | exact absurd rfl h

/-- The kinds of integers stand together among all kinds. -/
theorem compare_kindRank (families : a.family ≠ b.family) :
    compare a.kindRank b.kindRank = compare a.family b.family := by
  cases a <;> cases b <;> first | rfl | exact absurd rfl families

theorem totalCompare_of_family_ne (families : a.family ≠ b.family) :
    a.totalCompare b = compare a.family b.family := by
  have kinds : a.kindRank ≠ b.kindRank := by
    intro same
    cases a <;> cases b <;> first | exact families rfl | cases same
  have beyond : a.int64? = none ∨ b.int64? = none := by
    by_cases ha : a.family = 4
    · exact .inr (int64?_eq_none fun hb => families (ha.trans hb.symm))
    · exact .inl (int64?_eq_none ha)
  unfold totalCompare
  split
  · exact absurd rfl families
  · cases b <;> first | rfl | exact absurd rfl families
  · cases a <;> first | rfl | exact absurd rfl families
  · rw [compare?_eq_none kinds, Option.getD_none, fallbackCompare_of_int64?_eq_none kinds beyond,
      compare_kindRank families]

theorem totalCompare_of_kindRank_eq (kinds : a.kindRank = b.kindRank) :
    a.totalCompare b =
      (compare a.number b.number).then (compare (Text.codes a.content) (Text.codes b.content)) := by
  cases a <;> cases b <;> try cases kinds
  case null.null => rfl
  case integer.integer m n => simp [totalCompare, compare?, number, content, text?]
  case smallint.smallint m n => simp [totalCompare, compare?, number, content, text?]
  case bigint.bigint m n => simp [totalCompare, compare?, number, content, text?]
  case unsigned.unsigned m n =>
    simp [totalCompare, compare?, number, content, text?, Nat.compare_eq_ite_lt,
      Int.compare_eq_ite_lt]
  case numeric.numeric x y =>
    change (x.compare? y).getD (x.totalCompare y) = (compare x.place y.place).then .eq
    rw [BinaryFloat.compare_place, Ordering.then_eq]
  case real.real x y =>
    change (x.compare? y).getD (x.totalCompare y) = (compare x.place y.place).then .eq
    rw [BinaryFloat.compare_place, Ordering.then_eq]
  case double.double x y =>
    change (x.compare? y).getD (x.totalCompare y) = (compare x.place y.place).then .eq
    rw [BinaryFloat.compare_place, Ordering.then_eq]
  case character.character s t =>
    simp [totalCompare, compare?, number, content, text?, Text.compareText_eq, compareOn]
  case varchar.varchar s t =>
    simp [totalCompare, compare?, number, content, text?, Text.compareText_eq, compareOn]
  case boolean.boolean x y => cases x <;> cases y <;> rfl

theorem content_of_integer (h : a.family = 4) : a.content = "" := by
  cases a <;> first | rfl | cases h

/-- Within a family the number decides and then the text; at most one of the two is there. -/
theorem totalCompare_of_family_eq (families : a.family = b.family) :
    a.totalCompare b =
      (compare a.number b.number).then (compare (Text.codes a.content) (Text.codes b.content)) := by
  by_cases kinds : a.kindRank = b.kindRank
  · exact totalCompare_of_kindRank_eq kinds
  · have ha : a.family = 4 := by
      cases a <;> cases b <;> first | rfl | exact absurd rfl kinds | cases families
    have hb : b.family = 4 := families ▸ ha
    rw [content_of_integer ha, content_of_integer hb, Std.ReflOrd.compare_self, Ordering.then_eq,
      ← fallbackCompare_of_integers kinds ha hb]
    unfold totalCompare
    split
    · cases ha
    · cases ha
    · cases hb
    · rw [compare?_eq_none kinds, Option.getD_none]

/-- The order of values compares families, then numbers, then texts. -/
theorem totalCompare_eq :
    totalCompare =
      compareLex (compareOn family)
        (compareLex (compareOn number) (compareOn fun value => Text.codes value.content)) := by
  funext a b
  simp only [compareLex, compareOn]
  by_cases families : a.family = b.family
  · rw [totalCompare_of_family_eq families, families, Std.ReflOrd.compare_self, Ordering.eq_then]
  · rw [totalCompare_of_family_ne families]
    have differ : compare a.family b.family ≠ .eq :=
      fun same => families (Nat.compare_eq_eq.mp same)
    rw [then_of_ne_eq differ]

instance : Std.TransCmp totalCompare := by
  rw [totalCompare_eq]
  infer_instance

/-- The family of a value among cells, where all texts are of one kind. -/
def cellFamily (value : Value) : Nat :=
  if value.text?.isSome then 9 else value.family

theorem number_of_text {text : String} (h : a.text? = some text) : a.number = 0 := by
  cases a <;> first | rfl | cases h

theorem compare_cellFamily (h : a.text? = none ∨ b.text? = none) :
    compare a.cellFamily b.cellFamily = compare a.family b.family := by
  cases a <;> cases b <;> first | rfl | simp [text?] at h

theorem content_of_family_eq (h : a.text? = none ∨ b.text? = none)
    (families : a.family = b.family) : a.content = "" ∧ b.content = "" := by
  cases a <;> cases b <;>
    first | exact ⟨rfl, rfl⟩ | (simp [text?] at h; done) | cases families

end Value

namespace Collation

/-- The order of cells compares families, then numbers, then texts under the collation. -/
theorem compareCells_eq (collation : Collation) :
    collation.compareCells =
      compareLex (compareOn Value.cellFamily)
        (compareLex (compareOn Value.number)
          (compareLex (compareOn fun value => collation.foldedCodes value.content)
            (compareOn fun value => Text.codes value.content))) := by
  funext a b
  unfold compareCells
  split
  · rename_i s t first second
    simp only [compareLex, compareOn, Value.cellFamily, Value.content, first, second,
      Value.number_of_text first, Value.number_of_text second, compare_eq, Option.isSome_some,
      if_true, Std.ReflOrd.compare_self, Ordering.eq_then, Option.getD_some]
  · rename_i notBoth
    have h : a.text? = none ∨ b.text? = none := by
      cases first : a.text? with
      | none => exact .inl rfl
      | some s =>
        cases second : b.text? with
        | none => exact .inr rfl
        | some t => exact absurd second (notBoth s t first)
    simp only [Value.totalCompare_eq, compareLex, compareOn, Value.compare_cellFamily h]
    by_cases families : a.family = b.family
    · obtain ⟨empty, empty'⟩ := Value.content_of_family_eq h families
      simp only [empty, empty', Std.ReflOrd.compare_self, Ordering.eq_then]
    · have differ : Ord.compare a.family b.family ≠ .eq :=
        fun same => families (Nat.compare_eq_eq.mp same)
      rw [then_of_ne_eq differ, then_of_ne_eq differ]

instance (collation : Collation) : Std.TransCmp collation.compareCells := by
  rw [compareCells_eq]
  infer_instance

theorem compareRows_cons (collation : Collation) (position : Nat) (positions : List Nat) :
    collation.compareRows (position :: positions) =
      compareLex
        (fun a b => collation.compareCells (a.getD position .null) (b.getD position .null))
        (collation.compareRows positions) := rfl

theorem compareRows_eq_eq_iff (collation : Collation) {positions : List Nat} {a b : Row} :
    collation.compareRows positions a b = .eq ↔ ∀ position ∈ positions,
      collation.compareCells (a.getD position .null) (b.getD position .null) = .eq := by
  induction positions with
  | nil => simp [compareRows]
  | cons position positions ih =>
    rw [compareRows, Ordering.then_eq_eq, ih, List.forall_mem_cons]

/-- Rows that do not differ in the order have the same texts where the order looks. -/
theorem text_eq_of_compareRows (collation : Collation) {positions : List Nat} {a b : Row}
    (same : collation.compareRows positions a b = .eq) (position : Nat) {s t : String}
    (looked : position ∈ positions) (first : a[position]? = some (.varchar s))
    (second : b[position]? = some (.varchar t)) : s = t := by
  have cells := (compareRows_eq_eq_iff collation).mp same position looked
  simp only [List.getD_eq_getElem?_getD, first, second, Option.getD_some] at cells
  exact (compare_eq_eq_iff collation).mp cells

instance (collation : Collation) (positions : List Nat) :
    Std.TransCmp (collation.compareRows positions) := by
  induction positions with
  | nil => exact { eq_swap := rfl, isLE_trans := fun _ _ => rfl }
  | cons position positions ih =>
    rw [compareRows_cons]
    have := transCmp_comap collation.compareCells fun row : Row => row.getD position .null
    infer_instance

theorem rowLE_total (collation : Collation) (positions : List Nat) (a b : Row) :
    (collation.rowLE positions a b || collation.rowLE positions b a) = true :=
  isLE_total (collation.compareRows positions) a b

theorem rowLE_trans (collation : Collation) (positions : List Nat) (a b c : Row)
    (hab : collation.rowLE positions a b = true) (hbc : collation.rowLE positions b c = true) :
    collation.rowLE positions a c = true :=
  Std.TransCmp.isLE_trans hab hbc

end Collation

namespace Value

variable {a b : Value}

/-- The number that an integer of any width stands for. -/
def integer? : Value → Option Int
  | integer n => some n.toInt
  | smallint n => some n.toInt
  | bigint n => some n.toInt
  | unsigned n => some n.toNat
  | _ => none

theorem integer?_eq_some_iff {n : Int} : a.integer? = some n ↔ a.family = 4 ∧ a.number = n := by
  cases a <;> simp [integer?, family, number, kindRank]

/-- Any two values compare, and swapping them reverses the answer; of two comparisons in a row that
do not go down the first difference decides between the ends. Null goes before all other values, and
integers of all widths go by the numbers that they stand for. -/
structure IsTotalPreorder (cmp : Value → Value → Ordering) : Prop where
  refl : ∀ a, cmp a a = .eq
  swap : ∀ a b, cmp b a = (cmp a b).swap
  trans : ∀ a b c, cmp a b ≠ .gt → cmp b c ≠ .gt → cmp a c = (cmp a b).then (cmp b c)
  null_first : ∀ a, a ≠ null → cmp null a = .lt
  integers : ∀ a b m n, a.integer? = some m → b.integer? = some n → cmp a b = compare m n

theorem totalCompare_null_left (notNull : a ≠ null) : totalCompare null a = .lt := by
  cases a with
  | null => exact absurd rfl notNull
  | _ => rfl

theorem totalCompare_of_integer? {m n : Int} (first : a.integer? = some m)
    (second : b.integer? = some n) : a.totalCompare b = compare m n := by
  obtain ⟨ha, number⟩ := integer?_eq_some_iff.mp first
  obtain ⟨hb, number'⟩ := integer?_eq_some_iff.mp second
  rw [totalCompare_of_family_eq (ha.trans hb.symm), number, number', content_of_integer ha,
    content_of_integer hb, Std.ReflOrd.compare_self, Ordering.then_eq]

/-- Cells of which one is no text compare as values. -/
theorem compareCells_of_text?_eq_none (collation : Collation) (noText : a.text? = none) :
    collation.compareCells a b = a.totalCompare b := by
  rw [Collation.compareCells, noText]

/-- The order of values and the order of cells, under either collation, are total preorders. -/
theorem isTotalPreorder_compare (collation : Collation) :
    IsTotalPreorder totalCompare ∧ IsTotalPreorder collation.compareCells := by
  constructor
  · exact {
      refl := fun _ => Std.ReflCmp.compare_self
      swap := fun _ _ => Std.OrientedCmp.eq_swap
      trans := fun _ _ _ first second => compare_eq_then totalCompare first second
      null_first := fun _ notNull => totalCompare_null_left notNull
      integers := fun _ _ _ _ first second => totalCompare_of_integer? first second }
  · exact {
      refl := fun _ => Std.ReflCmp.compare_self
      swap := fun _ _ => Std.OrientedCmp.eq_swap
      trans := fun _ _ _ first second => compare_eq_then collation.compareCells first second
      null_first := by
        intro a notNull
        rw [compareCells_of_text?_eq_none collation rfl]
        exact totalCompare_null_left notNull
      integers := by
        intro a b m n first second
        have noText : a.text? = none := by
          cases a <;> first | rfl | cases first
        rw [compareCells_of_text?_eq_none collation noText]
        exact totalCompare_of_integer? first second }

example : totalCompare (.bigint (-1)) (.unsigned (2 ^ 64 - 1)) = .lt ∧
    totalCompare (.unsigned 7) (.smallint 7) = .eq := by decide +kernel

end Value

end CatalogViews
