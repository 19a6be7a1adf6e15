import Mathlib.Data.List.Duplicate
import Mathlib.Data.List.Flatten
import Mathlib.Data.List.Perm.Subperm
import Mathlib.Data.List.Sigma

/-!
# Distinct parts

A list of rows that is put together from the parts of found elements consists of the rows of
different parts, unless an element has been found twice: then its rows are there twice, and this
goes unnoticed only where it has none.
-/

namespace CatalogViews

variable {α β γ : Type} {found : List α} {parts : α → List β} {rows : β → List γ}

theorem duplicate_filterMap_iff {l : List β} {f : β → Option α} {a : α} (nodup : l.Nodup) :
    (l.filterMap f).Duplicate a ↔ ∃ x ∈ l, ∃ y ∈ l, x ≠ y ∧ f x = some a ∧ f y = some a := by
  induction l with
  | nil => simp [List.not_duplicate_nil]
  | cons b l ih =>
    obtain ⟨new, nodup⟩ := List.nodup_cons.mp nodup
    have later : (l.filterMap f).Duplicate a → ∃ x ∈ b :: l, ∃ y ∈ b :: l,
        x ≠ y ∧ f x = some a ∧ f y = some a := by
      intro twice
      obtain ⟨x, inX, y, inY, rest⟩ := (ih nodup).mp twice
      exact ⟨x, List.mem_cons_of_mem b inX, y, List.mem_cons_of_mem b inY, rest⟩
    constructor
    · intro twice
      cases first : f b with
      | none =>
        rw [List.filterMap_cons_none first] at twice
        exact later twice
      | some c =>
        rw [List.filterMap_cons_some first, List.duplicate_cons_iff] at twice
        rcases twice with ⟨rfl, again⟩ | twice
        · obtain ⟨y, inY, second⟩ := List.mem_filterMap.mp again
          refine ⟨b, List.mem_cons_self, y, List.mem_cons_of_mem b inY, ?_, first, second⟩
          rintro rfl
          exact new inY
        · exact later twice
    · rintro ⟨x, inX, y, inY, differ, first, second⟩
      rcases List.mem_cons.mp inX with rfl | laterX
      · rw [List.filterMap_cons_some first]
        have again := (List.mem_cons.mp inY).resolve_left differ.symm
        exact .cons_mem (List.mem_filterMap.mpr ⟨y, again, second⟩)
      · rcases List.mem_cons.mp inY with rfl | laterY
        · rw [List.filterMap_cons_some second]
          exact .cons_mem (List.mem_filterMap.mpr ⟨x, laterX, first⟩)
        · have twice := (ih nodup).mpr ⟨x, laterX, y, laterY, differ, first, second⟩
          exact twice.mono_sublist ((List.sublist_cons_self b l).filterMap f)

theorem flatMap_filter_nonempty {l : List α} {f : α → List γ} :
    (l.filter fun a => !(f a).isEmpty).flatMap f = l.flatMap f := by
  induction l with
  | nil => rfl
  | cons a l ih =>
    rw [List.filter_cons]
    split
    · rw [List.flatMap_cons, List.flatMap_cons, ih]
    · rename_i empty
      have none : f a = [] := by simpa using empty
      rw [List.flatMap_cons, none, List.nil_append, ih]

theorem flatMap_filter_zipIdx (q : α → Bool) (f : α → List γ) (l : List α) :
    (l.zipIdx.filter fun p => q p.1).flatMap (fun p => f p.1) = (l.filter q).flatMap f := by
  have all : l.zipIdx.map Prod.fst = l := List.zipIdx_map_fst 0 l
  conv_rhs => rw [← all, List.filter_map, List.flatMap_map]
  rfl

theorem flatMap_zipIdx (f : α → List γ) (l : List α) :
    l.zipIdx.flatMap (fun p => f p.1) = l.flatMap f := by
  have all : l.zipIdx.map Prod.fst = l := List.zipIdx_map_fst 0 l
  conv_rhs => rw [← all, List.flatMap_map]

theorem nodup_zipIdx (l : List α) : l.zipIdx.Nodup :=
  (List.nodup_zipIdx_map_snd l).of_map

/-- Rows that come from the parts of found elements come from different parts unless an element
with rows has been found twice. -/
theorem exists_nodup_parts_iff [DecidableEq α] (nodup : ∀ a ∈ found, (parts a).Nodup)
    (disjoint : ∀ a ∈ found, ∀ b ∈ found, a ≠ b → (parts a).Disjoint (parts b)) :
    (∃ chosen : List β, chosen.Nodup ∧ (∀ p ∈ chosen, ∃ a ∈ found, p ∈ parts a) ∧
        (found.flatMap fun a => (parts a).flatMap rows).Perm (chosen.flatMap rows)) ↔
      ∀ a, found.Duplicate a → (parts a).flatMap rows = [] := by
  constructor
  · rintro ⟨chosen, once, ofFound, same⟩ a twice
    have again : a ∈ found.erase a := by
      rw [← List.count_pos_iff, List.count_erase_self]
      have := List.duplicate_iff_two_le_count.mp twice
      omega
    have enough : chosen ⊆ (found.erase a).flatMap parts := by
      intro p member
      obtain ⟨b, inFound, part⟩ := ofFound p member
      refine List.mem_flatMap.mpr ⟨b, ?_, part⟩
      by_cases here : b = a
      · rw [here]
        exact again
      · exact (List.mem_erase_of_ne here).mpr inFound
    obtain ⟨some, reordered, sublist⟩ := once.subperm enough
    have fewer : (chosen.flatMap rows).length ≤
        (((found.erase a).flatMap parts).flatMap rows).length := by
      rw [← (reordered.flatMap_right rows).length_eq]
      exact (sublist.flatMap rows).length_le
    have whole : (found.flatMap fun a => (parts a).flatMap rows).length =
        ((parts a).flatMap rows).length +
          (((found.erase a).flatMap parts).flatMap rows).length := by
      rw [((List.perm_cons_erase twice.mem).flatMap_right _).length_eq, List.flatMap_cons,
        List.length_append, List.flatMap_assoc]
    rw [same.length_eq] at whole
    exact List.length_eq_zero_iff.mp (by omega)
  · intro noRows
    let reporting (a : α) : Bool := !((parts a).flatMap rows).isEmpty
    have once : (found.filter reporting).Nodup := by
      rw [List.nodup_iff_forall_not_duplicate]
      intro a twice
      have nonempty := (List.mem_filter.mp twice.mem).2
      simp [reporting, noRows a (twice.mono_sublist List.filter_sublist)] at nonempty
    refine ⟨(found.filter reporting).flatMap parts, ?_, ?_, ?_⟩
    · rw [List.nodup_flatMap]
      refine ⟨fun a member => nodup a (List.mem_of_mem_filter member), ?_⟩
      refine once.imp_of_mem fun inA inB differ => ?_
      exact disjoint _ (List.mem_of_mem_filter inA) _ (List.mem_of_mem_filter inB) differ
    · intro p member
      obtain ⟨a, chosen, part⟩ := List.mem_flatMap.mp member
      exact ⟨a, List.mem_of_mem_filter chosen, part⟩
    · rw [List.flatMap_assoc, flatMap_filter_nonempty]

end CatalogViews
