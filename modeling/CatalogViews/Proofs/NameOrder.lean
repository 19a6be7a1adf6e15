import CatalogViews.Catalog.Basic
import CatalogViews.Proofs.StableSort

/-!
# The order of names

Under each collation the names are in a strict total order, so a list of names has one sorted form,
whatever order the names come in. The case-insensitive collation compares uppercase forms before it
looks at the names themselves. What stands between two names of one uppercase form has this form too
(`Collation.foldedCodes_eq_of_between`), so the names that a catalog takes for the same identifier
stand together in a sorted list, however long their uppercase forms are.
-/

namespace CatalogViews.Collation

variable {collation : Collation} {a b c : String}

/-- Two names are in order only if their folded forms are. -/
theorem compare_foldedCodes_ne_gt (inOrder : collation.compare a b ≠ .gt) :
    compareOn collation.foldedCodes a b ≠ .gt := by
  intro above
  apply inOrder
  rw [compare_eq, compareLex, above]
  rfl

theorem foldedCodes_eq_of_between (first : collation.compare a b ≠ .gt)
    (second : collation.compare b c ≠ .gt)
    (ends : collation.foldedCodes a = collation.foldedCodes c) :
    collation.foldedCodes a = collation.foldedCodes b := by
  have folded := compare_eq_then (compareOn collation.foldedCodes)
    (compare_foldedCodes_ne_gt first) (compare_foldedCodes_ne_gt second)
  have same : compareOn collation.foldedCodes a c = .eq := by
    rw [compareOn, ends, Std.ReflOrd.compare_self]
  rw [same] at folded
  exact Std.LawfulEqCmp.compare_eq_iff_eq.mp (Ordering.then_eq_eq.mp folded.symm).1

theorem foldedCodes_eq_iff :
    caseInsensitive.foldedCodes a = caseInsensitive.foldedCodes b ↔
      CaseMode.insensitive.same a b = true := by
  have codes : caseInsensitive.foldedCodes a = caseInsensitive.foldedCodes b ↔
      Text.upperChars a.toList = Text.upperChars b.toList :=
    List.map_injective_iff.mpr (fun _ _ h => Char.toNat_inj.mp h) |>.eq_iff
  rw [codes, CaseMode.same_iff, CaseMode.key, CaseMode.key, ← String.toList_inj, Text.toList_upper,
    Text.toList_upper]

/-- The collation is a strict total order of names, and it decides how names are sorted. -/
structure OrdersNames (collation : Collation) : Prop where
  eq_iff : ∀ a b, collation.compare a b = .eq ↔ a = b
  swap : ∀ a b, collation.compare b a = (collation.compare a b).swap
  trans : ∀ a b c, collation.compare a b = .lt → collation.compare b c = .lt →
    collation.compare a c = .lt
  sort_perm : ∀ names, (collation.sort names).Perm names
  sort_ordered : ∀ names,
    (collation.sort names).Pairwise fun a b => collation.compare a b ≠ .gt
  sort_eq_iff : ∀ names names',
    collation.sort names = collation.sort names' ↔ names.Perm names'

/-- The names that a catalog takes for the same identifier stand together in the order, and so in
sorted lists. -/
structure KeepsTogether (collation : Collation) (catalog : Catalog) : Prop where
  between : ∀ a b c, collation.compare a b ≠ .gt → collation.compare b c ≠ .gt →
    catalog.sameIdentifier a c = true →
      catalog.sameIdentifier a b = true ∧ catalog.sameIdentifier b c = true
  adjacent : ∀ names before a middle c after,
    collation.sort names = before ++ a :: middle ++ c :: after →
      catalog.sameIdentifier a c = true → ∀ b ∈ middle, catalog.sameIdentifier a b = true

theorem sort_ordered (collation : Collation) (names : List String) :
    (collation.sort names).Pairwise fun a b => collation.compare a b ≠ .gt := by
  have sorted : (collation.sort names).Pairwise fun a b => collation.le a b = true :=
    List.pairwise_mergeSort (fun _ _ _ => Std.TransCmp.isLE_trans) (isLE_total collation.compare)
      names
  exact sorted.imp fun le => Ordering.isLE_iff_ne_gt.mp le

theorem ordersNames (collation : Collation) : collation.OrdersNames where
  eq_iff _ _ := collation.compare_eq_eq_iff
  swap _ _ := Std.OrientedCmp.eq_swap
  trans _ _ _ first second := Std.TransCmp.lt_trans first second
  sort_perm names := List.mergeSort_perm names collation.le
  sort_ordered := collation.sort_ordered
  sort_eq_iff names names' := by
    constructor
    · intro same
      have left : (collation.sort names).Perm names := List.mergeSort_perm names collation.le
      have right : (collation.sort names').Perm names' := List.mergeSort_perm names' collation.le
      rw [same] at left
      exact left.symm.trans right
    · exact collation.sort_eq_of_perm

/-- What stands between two names of one identifier is this identifier. Where case matters, it is
the name itself. -/
theorem sameIdentifier_of_between (catalog : Catalog) (first : caseInsensitive.compare a b ≠ .gt)
    (second : caseInsensitive.compare b c ≠ .gt) (ends : catalog.sameIdentifier a c = true) :
    catalog.sameIdentifier a b = true ∧ catalog.sameIdentifier b c = true := by
  unfold Catalog.sameIdentifier at ends ⊢
  cases mode : catalog.caseMode with
  | insensitive =>
    rw [mode, ← foldedCodes_eq_iff] at ends
    have same := foldedCodes_eq_of_between first second ends
    exact ⟨foldedCodes_eq_iff.mp same, foldedCodes_eq_iff.mp (same.symm.trans ends)⟩
  | sensitive =>
    rw [mode, CaseMode.same_iff] at ends
    have name : a = c := ends
    have both := compare_eq_then caseInsensitive.compare first second
    rw [(compare_eq_eq_iff caseInsensitive).mpr name] at both
    have same : a = b := (compare_eq_eq_iff caseInsensitive).mp (Ordering.then_eq_eq.mp both.symm).1
    rw [CaseMode.same_iff, CaseMode.same_iff, ← same, ← name]
    exact ⟨rfl, rfl⟩

/-- Both collations order names totally, and the case-insensitive one keeps the names of one
identifier together. -/
theorem ordersNames_keepsTogether (collation : Collation) (catalog : Catalog) :
    collation.OrdersNames ∧ caseInsensitive.KeepsTogether catalog := by
  refine ⟨collation.ordersNames, fun a b c => sameIdentifier_of_between catalog, ?_⟩
  intro names before a middle c after sorted ends b member
  have ordered := caseInsensitive.sort_ordered names
  rw [sorted, List.append_assoc, List.pairwise_append] at ordered
  have fromFirst := List.pairwise_cons.mp ordered.2.1
  have first : caseInsensitive.compare a b ≠ .gt :=
    fromFirst.1 b (List.mem_append_left _ member)
  have second : caseInsensitive.compare b c ≠ .gt :=
    (List.pairwise_append.mp fromFirst.2).2.2 b member c List.mem_cons_self
  exact (sameIdentifier_of_between catalog first second ends).1

example : caseInsensitive.compare "STRASSE" "straße" = .lt ∧
    caseInsensitive.compare "straße" "strasz" = .lt := by decide +kernel

end CatalogViews.Collation
