import CatalogViews.Types.DataType

/-!
# Columns

The columns of a table. A column has the text of a default or of the expression that generates it;
which of the two it is, `generated` says.
-/

namespace CatalogViews

structure Column where
  name : String
  type : DataType
  nullable : Bool := true
  autoIncrement : Bool := false
  /-- Whether `expression` computes the column. -/
  generated : Bool := false
  /-- The text of the default or of the generation expression. -/
  expression : Option String := none
  comment : Option String := none
deriving Repr, DecidableEq

namespace Column

def withDefault (column : Column) (expression : String) : Column :=
  { column with expression := some expression, generated := false }

def generatedBy (column : Column) (expression : String) : Column :=
  { column with expression := some expression, generated := true }

/-- Takes the default or the generation expression away. -/
def withoutDefault (column : Column) : Column :=
  { column with expression := none, generated := false }

end Column

end CatalogViews
