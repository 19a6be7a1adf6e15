import CatalogViews.Types.Descriptor

/-!
# Data types

The semantic type of a column: the logical type with its declared length, precision or scale.
`DataType.text` writes a type the way a declaration spells it. Lengths are words of 64 bits, and the
precision of a type reads a length as a signed word of the same bits.
-/

namespace CatalogViews

/-- The fields of an interval type. -/
inductive IntervalField where
  | year
  | month
  | day
  | hour
  | minute
  | second
deriving Repr, DecidableEq

def IntervalField.text : IntervalField → String
  | .year => "YEAR"
  | .month => "MONTH"
  | .day => "DAY"
  | .hour => "HOUR"
  | .minute => "MINUTE"
  | .second => "SECOND"

/-- The type of a column. -/
inductive DataType where
  | integer
  | smallint
  | bigint
  /-- Integers of 64 bits without a sign. -/
  | unsigned
  | numeric (precision scale : UInt8)
  | decimal (precision scale : UInt8)
  | float (precision : UInt8)
  | real
  | doublePrecision
  | character (length : UInt64)
  /-- A character string, of any length when there is no bound. -/
  | varchar (bound : Option UInt64)
  | characterLargeObject
  /-- An identifier. -/
  | name
  | boolean
  | date
  | time (withTimeZone : Bool)
  | timestamp (withTimeZone : Bool)
  | interval (first : IntervalField) (last : Option IntervalField)
  | binaryLargeObject
  | bit (length : Option UInt64)
  | userDefined (typeName : String)
  /-- The type of the null literal. -/
  | null
deriving Repr, DecidableEq

namespace DataType

/-- The descriptor under which a type is reported. -/
def descriptor : DataType → TypeDescriptor
  | integer => .integer
  | smallint => .smallint
  | bigint => .bigint
  | unsigned => .bigintUnsigned
  | numeric _ _ => .numeric
  | decimal _ _ => .decimalNumber
  | float _ => .float
  | real => .real
  | doublePrecision => .doublePrecision
  | character _ => .character
  | varchar _ => .characterVarying
  | name => .characterVarying
  | characterLargeObject => .characterLargeObject
  | boolean => .boolean
  | date => .date
  | time false => .time
  | time true => .timeWithTimeZone
  | timestamp false => .timestamp
  | timestamp true => .timestampWithTimeZone
  | interval _ _ => .interval
  | binaryLargeObject => .binaryLargeObject
  | bit _ => .bit
  | userDefined _ => .other
  | null => .null

/-- The declared precision: digits of a number, length of a string, display width of a date or
time. -/
def precision : DataType → Int64
  | smallint => 5
  | integer => 10
  | bigint => 19
  | unsigned => 20
  | numeric precision _ => .ofNat precision.toNat
  | decimal precision _ => .ofNat precision.toNat
  | float precision => .ofNat precision.toNat
  | real => 7
  | doublePrecision => 17
  | character length => length.toInt64
  | varchar (some bound) => bound.toInt64
  | varchar none => maxStringLength
  | name => 128
  | characterLargeObject => maxLobLength
  | binaryLargeObject => maxLobLength
  | boolean => 1
  | date => 10
  | time withTimeZone => if withTimeZone then 14 else 8
  | timestamp withTimeZone => if withTimeZone then 32 else 26
  | interval _ _ => 18
  | bit length => (length.getD 1).toInt64
  | userDefined _ => maxStringLength
  | null => 1

/-- The declared scale, zero for a type without a fractional part. Points in time are exact to the
microsecond. -/
def scale : DataType → Int32
  | numeric _ scale => .ofNat scale.toNat
  | decimal _ scale => .ofNat scale.toNat
  | timestamp _ => 6
  | _ => 0

/-- Whether the values of a type are numbers. -/
def isNumeric : DataType → Bool
  | integer | smallint | bigint | unsigned | numeric _ _ | decimal _ _ | float _ | real
  | doublePrecision => true
  | _ => false

/-- The type as a declaration spells it. -/
def text : DataType → String
  | numeric precision scale => s!"NUMERIC({precision.toNat}, {scale.toNat})"
  | decimal precision scale => s!"DECIMAL({precision.toNat}, {scale.toNat})"
  | float precision => s!"FLOAT({precision.toNat})"
  | character length => s!"CHARACTER({length.toNat})"
  | varchar (some bound) => s!"CHARACTER VARYING({bound.toNat})"
  | bit (some length) => s!"BIT({length.toNat})"
  | interval first (some last) => s!"INTERVAL {first.text} TO {last.text}"
  | interval first none => s!"INTERVAL {first.text}"
  | name => "NAME"
  | userDefined typeName => typeName
  | other => other.descriptor.name

end DataType

end CatalogViews
