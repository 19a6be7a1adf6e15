import CatalogViews.Number.Shortest
import CatalogViews.Types.DataType

/-!
# Values

The cells of a result table. A value is null, a truth value, a text of one of two kinds, an integer
of one of four widths, or a number of a binary format. `Value.text` writes a value for display.
-/

namespace CatalogViews

open Number

inductive Value where
  | null
  | integer (n : Int32)
  | smallint (n : Int16)
  | bigint (n : Int64)
  | unsigned (n : UInt64)
  | numeric (x : BinaryFloat .double)
  | real (x : BinaryFloat .single)
  | double (x : BinaryFloat .double)
  | character (s : String)
  | varchar (s : String)
  | boolean (b : Bool)
deriving Repr, DecidableEq

instance : Inhabited Value := ⟨.null⟩

namespace Value

/-- A text cell, null when there is no text. -/
def ofText? : Option String → Value
  | some s => varchar s
  | none => null

def isNull : Value → Bool
  | null => true
  | _ => false

/-- The text of a value of one of the text kinds. -/
def text? : Value → Option String
  | character s => some s
  | varchar s => some s
  | _ => none

def bool? : Value → Option Bool
  | boolean b => some b
  | _ => none

/-- An integer value as a signed word of 64 bits, if it fits. -/
def int64? : Value → Option Int64
  | integer n => some n.toInt64
  | smallint n => some n.toInt64
  | bigint n => some n
  | unsigned n => if n ≤ Int64.maxValue.toUInt64 then some n.toInt64 else none
  | _ => none

def kindName : Value → String
  | null => "NULL"
  | integer _ => "INTEGER"
  | smallint _ => "SMALLINT"
  | bigint _ => "BIGINT"
  | unsigned _ => "UNSIGNED"
  | numeric _ => "NUMERIC"
  | real _ => "REAL"
  | double _ => "DOUBLE PRECISION"
  | character _ => "CHAR"
  | varchar _ => "VARCHAR"
  | boolean _ => "BOOLEAN"

def type : Value → DataType
  | null => .null
  | integer _ => .integer
  | smallint _ => .smallint
  | bigint _ => .bigint
  | unsigned _ => .unsigned
  | numeric _ => .numeric 38 0
  | real _ => .real
  | double _ => .doublePrecision
  | character s => .character (.ofNat s.length)
  | varchar _ => .varchar none
  | boolean _ => .boolean

/-- The display text of a value. Exact numbers spell infinity out; no number has an exponent. -/
def text : Value → String
  | null => "NULL"
  | integer n => toString n.toInt
  | smallint n => toString n.toInt
  | bigint n => toString n.toInt
  | unsigned n => toString n.toNat
  | numeric x => x.toTextWith "Infinity"
  | real x => x.toText
  | double x => x.toText
  | character s => s
  | varchar s => s
  | boolean true => "TRUE"
  | boolean false => "FALSE"

end Value

end CatalogViews
