import CatalogViews.Catalog.Keyed
import Mathlib.Data.List.Nodup
import Mathlib.Data.List.Perm.Basic

/-!
# Lookups in a keyed collection

A keyed collection is the finite map that its lookups describe: each way of changing one is an
equation on `find?`. The keys in use are those whose lookup succeeds.
-/

namespace CatalogViews.Keyed

variable {α : Type} {m : Keyed α} {key : String} {value : α}

theorem mem_keys_iff : key ∈ m.keys ↔ ∃ value, m.find? key = some value := by
  simp [keys, find?_eq_some_iff]

theorem mem_values_iff : value ∈ m.values ↔ ∃ key, m.find? key = some value := by
  simp [values, find?_eq_some_iff]

theorem contains_iff : m.contains key = true ↔ key ∈ m.keys := by
  rw [contains_eq_isSome_find?, Option.isSome_iff_exists, mem_keys_iff]

theorem find?_eq_none_iff : m.find? key = none ↔ key ∉ m.keys := by
  rw [mem_keys_iff, Option.eq_none_iff_forall_not_mem]
  simp

@[simp] theorem find?_empty (key : String) : (empty : Keyed α).find? key = none := rfl

theorem insertNew_entries (fresh : m.find? key = none) :
    (m.insertNew key value).entries = m.entries ++ [(key, value)] := by
  rw [find?_eq_none_iff] at fresh
  simp [insertNew, fresh]

theorem find?_insertNew (fresh : m.find? key = none) (other : String) :
    (m.insertNew key value).find? other = if other = key then some value else m.find? other := by
  ext found
  rw [find?_eq_some_iff, insertNew_entries fresh, List.mem_append, List.mem_singleton,
    Prod.mk.injEq, ← find?_eq_some_iff]
  split
  · rename_i same
    rw [same, fresh]
    simp [eq_comm]
  · rename_i different
    simp [different]

theorem find?_replace {old : α} (used : m.find? key = some old) (other : String) :
    (m.replace key value).find? other = if other = key then some value else m.find? other := by
  ext found
  simp only [find?_eq_some_iff, replace, List.mem_map]
  constructor
  · rintro ⟨entry, member, changed⟩
    by_cases h : entry.1 = key
    · rw [if_pos h] at changed
      cases changed
      simp
    · rw [if_neg h] at changed
      subst changed
      simpa [h, find?_eq_some_iff] using member
  · split
    · rename_i same
      rintro ⟨⟩
      exact ⟨(key, old), find?_eq_some_iff.mp used, by simp [same]⟩
    · rename_i different
      intro h
      exact ⟨(other, found), find?_eq_some_iff.mp h, by simp [different]⟩

theorem find?_erase (other : String) :
    (m.erase key).find? other = if other = key then none else m.find? other := by
  ext found
  rw [find?_eq_some_iff]
  simp only [erase, List.mem_filter, bne_iff_ne, ne_eq]
  split
  · rename_i same
    simp [same]
  · rename_i different
    simp [different, find?_eq_some_iff]

theorem erase_insertNew (fresh : m.find? key = none) : (m.insertNew key value).erase key = m := by
  have others : ∀ entry ∈ m.entries, (entry.1 != key) = true := by
    intro entry member
    rw [find?_eq_none_iff, keys, List.mem_map, not_exists] at fresh
    rw [bne_iff_ne]
    exact fun same => fresh entry ⟨member, same⟩
  apply Keyed.ext
  simp only [erase, insertNew_entries fresh, List.filter_append, List.filter_eq_self.mpr others]
  simp

theorem replace_replace (other : α) :
    (m.replace key other).replace key value = m.replace key value := by
  apply Keyed.ext
  simp only [replace, List.map_map]
  apply List.map_congr_left
  intro entry _
  by_cases here : entry.1 = key <;> simp [here]

section

variable {property : String → α → Prop}
  (h : ∀ key value, m.find? key = some value → property key value)

include h

theorem forall_update {m' : Keyed α} (new : property key value)
    (update : ∀ other, m'.find? other = if other = key then some value else m.find? other) :
    ∀ other found, m'.find? other = some found → property other found := by
  intro other found here
  rw [update] at here
  split at here
  · rename_i same
    cases here
    rw [same]
    exact new
  · exact h other found here

theorem forall_insertNew (fresh : m.find? key = none) (new : property key value) :
    ∀ other found, (m.insertNew key value).find? other = some found → property other found :=
  forall_update h new (find?_insertNew fresh)

theorem forall_replace {old : α} (used : m.find? key = some old) (new : property key value) :
    ∀ other found, (m.replace key value).find? other = some found → property other found :=
  forall_update h new (find?_replace used)

theorem forall_erase :
    ∀ other found, (m.erase key).find? other = some found → property other found := by
  intro other found here
  rw [find?_erase] at here
  split at here
  · cases here
  · exact h other found here

end

theorem keys_insertNew (fresh : m.find? key = none) :
    (m.insertNew key value).keys = m.keys ++ [key] := by
  simp [keys, insertNew_entries fresh]

@[simp] theorem keys_replace : (m.replace key value).keys = m.keys := by
  simp only [keys, replace, List.map_map]
  refine List.map_congr_left fun entry _ => ?_
  by_cases h : entry.1 = key <;> simp [h]

theorem keys_erase : (m.erase key).keys = m.keys.filter (· != key) := by
  simp [keys, erase, List.filter_map, Function.comp_def]

/-- The entries in another order are the same map. -/
theorem find?_eq_of_perm {n : Keyed α} (same : m.entries.Perm n.entries) (key : String) :
    m.find? key = n.find? key := by
  ext value
  simp only [find?_eq_some_iff, same.mem_iff]

@[simp] theorem find?_sortBy (le : String × α → String × α → Bool) :
    (m.sortBy le).find? key = m.find? key :=
  find?_eq_of_perm (List.mergeSort_perm m.entries le) key

@[simp] theorem find?_mapValues {β : Type} (f : α → β) :
    (m.mapValues f).find? key = (m.find? key).map f := by
  ext value
  simp [find?_eq_some_iff, mapValues]

/-- The same map has the same entries. -/
theorem entries_perm {n : Keyed α} (same : ∀ key, m.find? key = n.find? key) :
    m.entries.Perm n.entries := by
  rw [List.perm_ext_iff_of_nodup m.nodup.of_map n.nodup.of_map]
  intro entry
  rw [← find?_eq_some_iff, ← find?_eq_some_iff, same]

section

variable {β γ : Type} {n : Keyed β} {relation : α → β → Prop} {f : α → List γ} {g : β → List γ}

theorem mem_keys_congr
    (related : ∀ key, Option.Rel relation (m.find? key) (n.find? key)) (key : String) :
    key ∈ m.keys ↔ key ∈ n.keys := by
  rw [← not_iff_not, ← find?_eq_none_iff, ← find?_eq_none_iff]
  have h := related key
  generalize m.find? key = here, n.find? key = there at h
  cases h <;> simp

theorem flatMap_values :
    m.values.flatMap f = m.keys.flatMap fun key => (m.find? key).toList.flatMap f := by
  rw [values, keys, List.flatMap_map, List.flatMap_map]
  apply List.flatMap_congr
  intro entry member
  have found : m.find? entry.1 = some entry.2 := find?_eq_some_iff.mpr member
  rw [found, Option.toList_some, List.flatMap_singleton]

theorem perm_flatMap_toList {a : Option α} {b : Option β} (related : Option.Rel relation a b)
    (agree : ∀ x y, relation x y → (f x).Perm (g y)) :
    (a.toList.flatMap f).Perm (b.toList.flatMap g) := by
  cases related with
  | none => exact .refl _
  | some here => simpa using agree _ _ here

/-- What two maps give for their values is the same up to order if it is so under every key. -/
theorem perm_flatMap_values
    (related : ∀ key, Option.Rel relation (m.find? key) (n.find? key))
    (agree : ∀ x y, relation x y → (f x).Perm (g y)) :
    (m.values.flatMap f).Perm (n.values.flatMap g) := by
  rw [flatMap_values, flatMap_values]
  apply List.Perm.flatMap
  · exact (List.perm_ext_iff_of_nodup m.nodup n.nodup).mpr (mem_keys_congr related)
  · intro key _
    exact perm_flatMap_toList (related key) agree

end

/-- Where the keys are those of some items, the values are what is found for the items. -/
theorem perm_map_find? {ι : Type} {items : List ι} {keyOf : ι → String}
    (distinct : (items.map keyOf).Nodup) (used : ∀ key, key ∈ m.keys ↔ key ∈ items.map keyOf) :
    (items.map fun item => m.find? (keyOf item)).Perm (m.values.map some) := by
  have found : m.keys.map m.find? = m.values.map some := by
    rw [keys, values, List.map_map, List.map_map]
    exact List.map_congr_left fun entry member => find?_eq_some_iff.mpr member
  have perm : m.keys.Perm (items.map keyOf) :=
    (List.perm_ext_iff_of_nodup m.nodup distinct).mpr used
  have images := perm.map m.find?
  rw [found, List.map_map] at images
  exact images.symm

section

variable {keyOf : α → String}
  (determined : ∀ key value, m.find? key = some value → key = keyOf value)

include determined

theorem map_values_eq_keys : m.values.map keyOf = m.keys := by
  simp only [values, keys, List.map_map]
  apply List.map_congr_left
  intro entry member
  have found : m.find? entry.1 = some entry.2 := find?_eq_some_iff.mpr member
  exact (determined _ _ found).symm

theorem nodup_map_values : (m.values.map keyOf).Nodup := by
  rw [map_values_eq_keys determined]
  exact m.nodup

theorem find?_eq_some_iff_mem_values :
    m.find? key = some value ↔ value ∈ m.values ∧ keyOf value = key := by
  rw [mem_values_iff]
  constructor
  · intro found
    exact ⟨⟨key, found⟩, (determined key value found).symm⟩
  · intro h
    obtain ⟨⟨other, found⟩, same⟩ := h
    have here : other = key := (determined other value found).trans same
    rw [← here]
    exact found

theorem find?_eq_none_iff_values :
    m.find? key = none ↔ ∀ value ∈ m.values, keyOf value ≠ key := by
  rw [find?_eq_none_iff, ← map_values_eq_keys determined]
  simp

end

end CatalogViews.Keyed
