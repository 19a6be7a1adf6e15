/-!
# Keyed collections

A finite map from texts to values, kept as its entries in the order in which they were put in. No
key occurs twice, so a key determines its entry (`find?_eq_some_iff`).
-/

namespace CatalogViews

/-- Entries with pairwise different keys. -/
structure Keyed (α : Type) where
  entries : List (String × α)
  nodup : (entries.map (·.1)).Nodup
deriving DecidableEq

namespace Keyed

variable {α : Type}

@[ext] theorem ext {m n : Keyed α} (h : m.entries = n.entries) : m = n := by
  cases m; cases n; simp_all

def empty : Keyed α := ⟨[], by simp⟩

instance : Inhabited (Keyed α) := ⟨empty⟩

def keys (m : Keyed α) : List String :=
  m.entries.map (·.1)

def values (m : Keyed α) : List α :=
  m.entries.map (·.2)

def find? (m : Keyed α) (key : String) : Option α :=
  (m.entries.find? (·.1 == key)).map (·.2)

def contains (m : Keyed α) (key : String) : Bool :=
  m.entries.any (·.1 == key)

def isEmpty (m : Keyed α) : Bool :=
  m.entries.isEmpty

def size (m : Keyed α) : Nat :=
  m.entries.length

/-- Puts a value under a key that is not in use; a key in use keeps its value. -/
def insertNew (m : Keyed α) (key : String) (value : α) : Keyed α :=
  if fresh : key ∈ m.keys then m
  else ⟨m.entries ++ [(key, value)], by
    simp only [List.map_append, List.map_cons, List.map_nil]
    refine List.nodup_append.2 ⟨m.nodup, by simp, ?_⟩
    rintro a ha b hb rfl
    simp only [List.mem_singleton] at hb
    exact fresh (hb ▸ ha)⟩

/-- Replaces the value under a key in use; a key that is not in use changes nothing. -/
def replace (m : Keyed α) (key : String) (value : α) : Keyed α :=
  ⟨m.entries.map fun entry => if entry.1 = key then (key, value) else entry, by
    have same : ((fun entry : String × α => entry.1) ∘
        fun entry => if entry.1 = key then (key, value) else entry) = fun entry => entry.1 := by
      funext entry
      by_cases h : entry.1 = key <;> simp [h]
    rw [List.map_map, same]
    exact m.nodup⟩

def erase (m : Keyed α) (key : String) : Keyed α :=
  ⟨m.entries.filter (·.1 != key), (List.filter_sublist.map _).nodup m.nodup⟩

/-- The entries in the order of `le`. -/
def sortBy (m : Keyed α) (le : String × α → String × α → Bool) : Keyed α :=
  ⟨m.entries.mergeSort le, ((List.mergeSort_perm _ _).map _).nodup_iff.2 m.nodup⟩

/-- The same keys with changed values. -/
def mapValues {β : Type} (m : Keyed α) (f : α → β) : Keyed β :=
  ⟨m.entries.map fun entry => (entry.1, f entry.2), by
    rw [List.map_map]
    exact m.nodup⟩

theorem find?_eq_some_iff {m : Keyed α} {key : String} {value : α} :
    m.find? key = some value ↔ (key, value) ∈ m.entries := by
  obtain ⟨entries, nodup⟩ := m
  simp only [find?]
  induction entries with
  | nil => simp
  | cons entry entries ih =>
    obtain ⟨k, v⟩ := entry
    simp only [List.map_cons, List.nodup_cons, List.mem_map, Prod.exists, exists_and_right,
      exists_eq_right, not_exists] at nodup
    by_cases h : k = key
    · subst h
      simp [nodup.1, eq_comm]
    · have h' : (k == key) = false := by simpa using h
      have h'' : ¬ key = k := fun e => h e.symm
      simp only [List.find?_cons, h', List.mem_cons, Prod.mk.injEq, h'', false_and, false_or]
      exact ih nodup.2

theorem contains_eq_isSome_find? (m : Keyed α) (key : String) :
    m.contains key = (m.find? key).isSome := by
  rw [contains, find?, Option.isSome_map, Bool.eq_iff_iff, List.find?_isSome, List.any_eq_true]

/-- Putting back the value that a key has changes nothing. -/
theorem replace_eq_self {m : Keyed α} {key : String} {value : α}
    (h : m.find? key = some value) : m.replace key value = m := by
  apply ext
  have member := find?_eq_some_iff.1 h
  have same : ∀ entry ∈ m.entries, (if entry.1 = key then (key, value) else entry) = entry := by
    intro entry he
    split
    · rename_i hk
      have first : m.find? entry.1 = some entry.2 := find?_eq_some_iff.2 he
      rw [hk, h] at first
      cases entry
      simp_all
    · rfl
  simp only [replace]
  exact (List.map_congr_left same).trans (List.map_id _)

end Keyed

end CatalogViews
