/-!
# Type descriptors

One descriptor for each logical type: its name, its code in client metadata, the bounds of its
precision and scale, and how its literals are quoted. `TypeDescriptor.all` lists them in the order
in which they are reported; the hidden ones are never reported.
-/

namespace CatalogViews

/-- The greatest length of a character or bit string. -/
def maxStringLength : Int64 := 1000000

/-- The greatest length of a large object. -/
def maxLobLength : Int64 := Int64.maxValue

structure TypeDescriptor where
  name : String
  /-- The code of the type in the standard numbering of client metadata. -/
  code : Int32
  maxPrecision : Int64
  minScale : Int32 := 0
  maxScale : Int32 := 0
  literalPrefix : Option String := none
  literalSuffix : Option String := none
  /-- The parameters of a declaration, such as `PRECISION,SCALE`. -/
  params : Option String := none
  caseSensitive : Bool := false
  /-- Whether the number of decimal digits means something for the type. -/
  supportsScale : Bool := false
  /-- Whether the type counts in a decimal radix. -/
  decimal : Bool := false
  /-- Whether the type is exact with a declared precision and scale. -/
  fixedPrecisionScale : Bool := false
  autoIncrement : Bool := false
  unsigned : Bool := false
  /-- Whether the type is internal and never reported. -/
  hidden : Bool := false
deriving Repr, DecidableEq

namespace TypeDescriptor

def integerType (name : String) (code : Int32) (maxPrecision : Int64) : TypeDescriptor :=
  { name, code, maxPrecision, decimal := true, autoIncrement := true }

def stringType (name : String) (code : Int32) (maxPrecision : Int64) : TypeDescriptor :=
  { name, code, maxPrecision, literalPrefix := some "'", literalSuffix := some "'",
    params := some "LENGTH", caseSensitive := true }

/-- The descriptor of a bit or byte string type, whose literals start with `mark`. -/
def bitsType (name : String) (code : Int32) (maxPrecision : Int64) (mark : String) :
    TypeDescriptor :=
  { name, code, maxPrecision, literalPrefix := some mark, literalSuffix := some "'",
    params := some "LENGTH" }

def exactType (name : String) (code : Int32) : TypeDescriptor :=
  { name, code, maxPrecision := 100, maxScale := 100, params := some "PRECISION,SCALE",
    supportsScale := true, decimal := true, fixedPrecisionScale := true }

/-- The descriptor of an approximate number type. -/
def approximateType (name : String) (code : Int32) (maxPrecision : Int64)
    (params : Option String) : TypeDescriptor :=
  { name, code, maxPrecision, params, decimal := true }

/-- The descriptor of a date or time type whose values have fractional seconds. -/
def fractionalType (name : String) (code : Int32) (maxPrecision : Int64) (mark : String) :
    TypeDescriptor :=
  { name, code, maxPrecision, maxScale := 9, literalPrefix := some mark, literalSuffix := some "'",
    params := some "SCALE", supportsScale := true }

def null : TypeDescriptor :=
  { name := "NULL", code := 0, maxPrecision := 1, hidden := true }

/-- Character strings of a fixed length. -/
def character : TypeDescriptor := stringType "CHARACTER" 1 maxStringLength

/-- Character strings up to a length. -/
def characterVarying : TypeDescriptor := stringType "CHARACTER VARYING" 12 maxStringLength

def characterLargeObject : TypeDescriptor := stringType "CHARACTER LARGE OBJECT" 2005 maxLobLength

def bit : TypeDescriptor := bitsType "BIT" (-7) maxStringLength "B'"

def binaryLargeObject : TypeDescriptor := bitsType "BINARY LARGE OBJECT" 2004 maxLobLength "X'"

def boolean : TypeDescriptor := { name := "BOOLEAN", code := 16, maxPrecision := 1 }

def smallint : TypeDescriptor := integerType "SMALLINT" 5 5

def integer : TypeDescriptor := integerType "INTEGER" 4 10

def bigint : TypeDescriptor := integerType "BIGINT" (-5) 19

/-- Integers of 64 bits without a sign. -/
def bigintUnsigned : TypeDescriptor :=
  { integerType "BIGINT UNSIGNED" (-5) 20 with unsigned := true }

def numeric : TypeDescriptor := exactType "NUMERIC" 2

/-- Exact numbers of at least the declared precision. -/
def decimalNumber : TypeDescriptor := exactType "DECIMAL" 3

/-- Approximate numbers of 32 bits. -/
def real : TypeDescriptor := approximateType "REAL" 7 7 none

/-- Approximate numbers with a declared precision. -/
def float : TypeDescriptor := approximateType "FLOAT" 6 17 (some "PRECISION")

/-- Approximate numbers of 64 bits. -/
def doublePrecision : TypeDescriptor := approximateType "DOUBLE PRECISION" 8 17 none

def date : TypeDescriptor :=
  { name := "DATE", code := 91, maxPrecision := 10, literalPrefix := some "DATE '",
    literalSuffix := some "'" }

def time : TypeDescriptor := fractionalType "TIME" 92 18 "TIME '"

def timeWithTimeZone : TypeDescriptor :=
  fractionalType "TIME WITH TIME ZONE" 2013 24 "TIME WITH TIME ZONE '"

def timestamp : TypeDescriptor := fractionalType "TIMESTAMP" 93 29 "TIMESTAMP '"

def timestampWithTimeZone : TypeDescriptor :=
  fractionalType "TIMESTAMP WITH TIME ZONE" 2014 35 "TIMESTAMP WITH TIME ZONE '"

def interval : TypeDescriptor := fractionalType "INTERVAL" 1111 18 "INTERVAL '"

/-- Types named by a user. -/
def other : TypeDescriptor := { name := "OTHER", code := 1111, maxPrecision := maxStringLength }

/-- Every descriptor, in the order in which they are reported. -/
def all : List TypeDescriptor :=
  [null, character, characterVarying, characterLargeObject, bit, binaryLargeObject, boolean,
    smallint, integer, bigint, bigintUnsigned, numeric, decimalNumber, real, float,
    doublePrecision, date, time, timeWithTimeZone, timestamp, timestampWithTimeZone, interval,
    other]

def visible : List TypeDescriptor :=
  all.filter (!·.hidden)

end TypeDescriptor

end CatalogViews
