import CatalogViews.Text.UppercaseTable

/-!
# Uppercase forms

The full, locale-free uppercase mapping: one character may become several, as `ß` becomes `SS`.
`upper` maps a whole text by joining the forms of its characters. The form of a character is never
empty (`uppercase_ne_nil`), so only the empty text has an empty uppercase form.
-/

namespace CatalogViews.Text

/-- The uppercase character of a character whose form is a single one. -/
def uppercaseSingle (c : Char) : Char :=
  match caseRuns.find? (·.holds c.toNat) with
  | some run => Char.ofNat (c.toNat + run.shift).toNat
  | none => c

/-- The uppercase form of a character. ASCII is mapped without a look at the table. -/
def uppercase (c : Char) : List Char :=
  if c.toNat < 128 then [c.toUpper]
  else match caseExpansions.find? (·.source == c.toNat) with
    | some form => Char.ofNat form.head :: form.tail.map Char.ofNat
    | none => [uppercaseSingle c]

theorem uppercase_ne_nil (c : Char) : uppercase c ≠ [] := by
  unfold uppercase
  split
  · simp
  · split <;> simp

def upperChars (text : List Char) : List Char :=
  text.flatMap uppercase

@[simp] theorem upperChars_nil : upperChars [] = [] := rfl

@[simp] theorem upperChars_cons (c : Char) (text : List Char) :
    upperChars (c :: text) = uppercase c ++ upperChars text := rfl

@[simp] theorem upperChars_eq_nil_iff {text : List Char} : upperChars text = [] ↔ text = [] := by
  cases text with
  | nil => simp
  | cons c text => simp [uppercase_ne_nil]

def upper (text : String) : String :=
  String.ofList (upperChars text.toList)

@[simp] theorem toList_upper (text : String) : (upper text).toList = upperChars text.toList := by
  simp [upper]

end CatalogViews.Text
