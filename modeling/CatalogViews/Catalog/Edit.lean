import CatalogViews.Catalog.Error

/-!
# Edits

A catalog operation is an edit: it changes a state in place and ends with a value or an error. The
state that a failed edit leaves behind is part of its result, so that nothing is rolled back by
construction; `Edit.Atomic` says of an edit that its failures leave the state as it was.

`Edit.within` runs an edit on a part of a state. Where to find the part, and how to put a changed
part back, is a `Focus`.
-/

namespace CatalogViews

/-- A change of a state that may fail. -/
abbrev Edit (σ : Type) (α : Type) := EStateM CatalogError σ α

/-- A way to find a part of a state, together with the way to put a changed part back. -/
abbrev Focus (σ τ : Type) := σ → Except CatalogError (τ × (τ → σ))

namespace Edit

variable {σ τ α : Type}

/-- A failure leaves the state as it was. -/
def Atomic (edit : Edit σ α) : Prop :=
  ∀ state error state', edit state = .error error state' → state' = state

/-- Runs an edit on a part of the state and puts the part back, whatever the outcome. -/
def within (focus : Focus σ τ) (edit : Edit τ α) : Edit σ α := fun state =>
  match focus state with
  | .error error => .error error state
  | .ok (part, restore) =>
    match edit part with
    | .ok result part' => .ok result (restore part')
    | .error error part' => .error error (restore part')

end Edit

end CatalogViews
