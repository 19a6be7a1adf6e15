/-!
# The order of texts

Texts are ordered by code points, character by character; a text comes before its continuations.
`compareChars` is a total order on lists of characters: it answers `eq` exactly for equal lists.
`search?` is a binary search by this order.
-/

namespace CatalogViews.Text

/-- The order of lists of characters by code points. -/
def compareChars : List Char → List Char → Ordering
  | [], [] => .eq
  | [], _ :: _ => .lt
  | _ :: _, [] => .gt
  | a :: as, b :: bs => (compare a.toNat b.toNat).then (compareChars as bs)

/-- The order of texts by code points. -/
def compareText (a b : String) : Ordering :=
  compareChars a.toList b.toList

@[simp] theorem compareChars_self (text : List Char) : compareChars text text = .eq := by
  induction text with
  | nil => rfl
  | cons c text ih => simp [compareChars, ih]

theorem eq_append_of_splitAt {n : Nat} {entries front back : List String}
    (halves : entries.splitAt n = (front, back)) : entries = front ++ back := by
  rw [List.splitAt_eq, Prod.mk.injEq] at halves
  rw [← halves.1, ← halves.2, List.take_append_drop]

/-- The position of a text in an increasing list of texts, by halving the list. -/
def search? (entries : List String) (text : String) : Option Nat :=
  match _halves : entries.splitAt (entries.length / 2) with
  | (_, []) => none
  | (front, entry :: back) =>
    match compareText entry text with
    | .eq => some front.length
    | .gt => search? front text
    | .lt => (search? back text).map (front.length + 1 + ·)
termination_by entries.length
decreasing_by
  all_goals
    rw [eq_append_of_splitAt _halves, List.length_append, List.length_cons]
    omega

end CatalogViews.Text
