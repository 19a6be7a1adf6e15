/-!
# Constraints

The keys of a table and its references to keys of other tables.
-/

namespace CatalogViews

/-- A primary key or a unique key; the order of the columns is the order of the key. -/
structure Key where
  name : String
  columns : List String
deriving Repr, DecidableEq

/-- What happens to a row when the row that it references changes. -/
inductive ReferentialAction where
  | noAction
  | restrict
  | cascade
  | setNull
  | setDefault
deriving Repr, DecidableEq

/-- An action is `RESTRICT` where none is given. -/
instance : Inhabited ReferentialAction := ⟨.restrict⟩

def ReferentialAction.text : ReferentialAction → String
  | noAction => "NO ACTION"
  | restrict => "RESTRICT"
  | cascade => "CASCADE"
  | setNull => "SET NULL"
  | setDefault => "SET DEFAULT"

/-- A reference of one table, the child, to a key of another, the parent. The columns of the two
sides pair up by position. -/
structure ForeignKey where
  name : String
  columns : List String
  /-- The schema of the parent; the child's own schema where none is given. -/
  parentSchema : Option String := none
  parentTable : String
  parentColumns : List String
  /-- The name of the parent's key that is referenced, once it is known. -/
  referencedKey : Option String := none
  onDelete : ReferentialAction := default
  onUpdate : ReferentialAction := default
deriving Repr, DecidableEq

/-- The columns in pairs of a child column and a parent column. -/
def ForeignKey.columnPairs (fk : ForeignKey) : List (String × String) :=
  fk.columns.zip fk.parentColumns

end CatalogViews
