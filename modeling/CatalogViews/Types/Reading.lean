import CatalogViews.Number.Reading
import CatalogViews.Text.Blank
import CatalogViews.Text.Uppercase
import CatalogViews.Types.DataType

/-!
# Reading a type

A declaration such as `VARCHAR(64)` or `NUMERIC(10,2)` names a type and may give it arguments in
parentheses. Letter case and the kind of blanks between words do not matter. `TypeDeclaration` holds
the two parts, `TypeDeclaration.read?` finds them in a text, and `TypeDeclaration.type?` says which
type they stand for.
-/

namespace CatalogViews

/-- The parts of a type declaration: the words of the name, each after one space, and the
arguments. -/
structure TypeDeclaration where
  name : String
  args : List UInt64
deriving Repr, DecidableEq

namespace TypeDeclaration

/-- The words of a type name with one space between two of them. -/
def joinWords (text : List Char) : String :=
  String.ofList ([' '].intercalate (Text.words text))

/-- The arguments up to the closing parenthesis, which must end the text. -/
def readArgs? (text : List Char) : Option (List UInt64) :=
  match text.reverse with
  | ')' :: inner =>
    (Text.pieces (· == ',') inner.reverse).mapM fun piece => Number.word64? (Text.trimChars piece)
  | _ => none

/-- The parts of a declaration; `none` when the arguments are malformed. -/
def read? (source : String) : Option TypeDeclaration :=
  let text := Text.upperChars (Text.trimChars source.toList)
  match Text.cut? '(' text with
  | none => some ⟨joinWords text, []⟩
  | some (name, rest) => (readArgs? rest).map fun args => ⟨joinWords name, args⟩

/-- An argument that must fit into one byte. -/
def byte? (n : UInt64) : Option UInt8 :=
  if n.toNat < 256 then some n.toUInt8 else none

/-- The type of a name without arguments. -/
def bare? : String → Option DataType
  | "INTEGER" | "INT" => some .integer
  | "SMALLINT" => some .smallint
  | "BIGINT" => some .bigint
  | "BIGINT UNSIGNED" => some .unsigned
  | "BOOLEAN" => some .boolean
  | "VARCHAR" | "CHARACTER VARYING" => some (.varchar none)
  | "CHAR" | "CHARACTER" => some (.character 1)
  | "NUMERIC" => some (.numeric 38 0)
  | "DECIMAL" => some (.decimal 38 0)
  | "FLOAT" => some (.float 53)
  | "REAL" => some .real
  | "DOUBLE PRECISION" | "DOUBLE" => some .doublePrecision
  | "DATE" => some .date
  | "TIME" => some (.time false)
  | "TIME WITH TIME ZONE" => some (.time true)
  | "TIMESTAMP" => some (.timestamp false)
  | "TIMESTAMP WITH TIME ZONE" => some (.timestamp true)
  | "CLOB" => some .characterLargeObject
  | "BLOB" => some .binaryLargeObject
  | _ => none

/-- The type of a name with one argument, a length or a precision. -/
def sized? (size : UInt64) : String → Option DataType
  | "VARCHAR" | "CHARACTER VARYING" => some (.varchar (some size))
  | "CHAR" | "CHARACTER" => some (.character size)
  | "NUMERIC" => (byte? size).map (.numeric · 0)
  | "DECIMAL" => (byte? size).map (.decimal · 0)
  | "FLOAT" => (byte? size).map .float
  | _ => none

/-- The type of a name with a precision and a scale. -/
def scaled? (precision scale : UInt64) : String → Option DataType
  | "NUMERIC" => return .numeric (← byte? precision) (← byte? scale)
  | "DECIMAL" => return .decimal (← byte? precision) (← byte? scale)
  | _ => none

/-- The type of a declaration; `none` for an unknown name, a wrong number of arguments or an
argument that does not fit. -/
def type? (declaration : TypeDeclaration) : Option DataType :=
  match declaration.args with
  | [] => bare? declaration.name
  | [size] => sized? size declaration.name
  | [precision, scale] => scaled? precision scale declaration.name
  | _ => none

end TypeDeclaration

/-- The type that a declaration stands for, if it is well formed. -/
def DataType.ofText? (source : String) : Option DataType :=
  (TypeDeclaration.read? source).bind (·.type?)

end CatalogViews
