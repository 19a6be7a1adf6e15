import CatalogViews.Number.BinaryFloat

/-!
# Documents

The value of a document, whatever the notation in which it is written, and the readers that take a
value of a certain kind out of it. A reader has an answer exactly when the node is of that kind;
what was found instead is not told.

A record is read field by field in a fixed order. In a table its fields are found by name; in a list
they are the elements, one after another. A `FieldReader` therefore keeps what is left of a record,
and a table or a list is never looked at in any other way. Fields of a table that nobody asks for
are ignored. Notations differ on elements of a list beyond the fields of the record that it stands
for: in some they are ignored, in others there must be none, and then the list is closed.
-/

namespace CatalogViews

/-- The value of a document. -/
inductive Node where
  | null
  | boolean (value : Bool)
  | integer (value : Int)
  | real (value : Number.BinaryFloat .double)
  | text (value : String)
  /-- A date, a time of day or both. -/
  | moment (text : String)
  /-- A list. Closed, it stands only for a record to which all of its elements belong. -/
  | list (elements : List Node) (closed : Bool := false)
  | table (entries : List (String × Node))
deriving Inhabited

namespace Node

def text? : Node → Option String
  | text value => some value
  | _ => none

/-- The truth value that a node is. -/
def boolean? : Node → Option Bool
  | boolean value => some value
  | _ => none

/-- The integer from `0` to `2 ^ 64 - 1` that a node is. -/
def word? : Node → Option UInt64
  | integer value => if 0 ≤ value ∧ value < UInt64.size then some (.ofNat value.toNat) else none
  | _ => none

def char? : Node → Option Char
  | text value =>
    match value.toList with
    | [c] => some c
    | _ => none
  | _ => none

/-- The elements of the list that a node is, each read by `read`. -/
def list? {α : Type} (read : Node → Option α) : Node → Option (List α)
  | list elements _ => elements.mapM read
  | _ => none

/-- What is left of a record. -/
inductive Fields where
  /-- Fields with names. -/
  | named (entries : List (String × Node))
  /-- The fields that have not been read yet, in order. Closed, none may be left in the end. -/
  | ordered (elements : List Node) (closed : Bool)

/-- Whether a record may end with these fields left. -/
def Fields.mayRemain : Fields → Bool
  | .named _ => true
  | .ordered elements closed => elements.isEmpty || !closed

/-- The record that a node is. A moment is a record without fields. -/
def fields? : Node → Option Fields
  | table entries => some (.named entries)
  | list elements closed => some (.ordered elements closed)
  | moment _ => some (.named [])
  | _ => none

end Node

/-- Reads the fields of a record in order. -/
abbrev FieldReader := StateT Node.Fields Option

namespace FieldReader

/-- The next field, which has that name, if the record has it. -/
def field? (name : String) : FieldReader (Option Node) := fun fields =>
  match fields with
  | .named entries => some (entries.lookup name, fields)
  | .ordered [] closed => some (none, .ordered [] closed)
  | .ordered (element :: rest) closed => some (some element, .ordered rest closed)

/-- A field that the record must have. -/
def required {α : Type} (name : String) (read : Node → Option α) : FieldReader α := do
  let some node ← field? name | failure
  read node

/-- A field with a default value. -/
def withDefault {α : Type} (name : String) (default : α) (read : Node → Option α) :
    FieldReader α := do
  let some node ← field? name | return default
  read node

/-- A field that may be missing or null. -/
def optional {α : Type} (name : String) (read : Node → Option α) : FieldReader (Option α) := do
  let some node ← field? name | return none
  match node with
  | .null => return none
  | node => some <$> (read node : FieldReader α)

/-- A truth value that is false where it is not given. -/
def flag (name : String) : FieldReader Bool :=
  withDefault name false Node.boolean?

/-- A number that is zero where it is not given. -/
def count (name : String) : FieldReader UInt64 :=
  withDefault name 0 Node.word?

/-- A list of texts that must be given. -/
def names (name : String) : FieldReader (List String) :=
  required name (Node.list? Node.text?)

/-- A list that is empty where it is not given. -/
def list {α : Type} (name : String) (read : Node → Option α) : FieldReader (List α) :=
  withDefault name [] (Node.list? read)

end FieldReader

def Node.record? {α : Type} (reader : FieldReader α) (node : Node) : Option α := do
  let (value, rest) ← reader (← node.fields?)
  guard rest.mayRemain
  return value

end CatalogViews
