import CatalogViews.Metadata.Basic

/-!
# Type information

The view on the supported data types, in the order of their descriptors.
-/

namespace CatalogViews.Metadata

def typeInfoColumns : List ResultColumn :=
  [textColumn "TYPE_NAME", integerColumn "DATA_TYPE", integerColumn "PRECISION",
    textColumn "LITERAL_PREFIX", textColumn "LITERAL_SUFFIX", textColumn "CREATE_PARAMS",
    smallintColumn "NULLABLE", booleanColumn "CASE_SENSITIVE", smallintColumn "SEARCHABLE",
    booleanColumn "UNSIGNED_ATTRIBUTE", booleanColumn "FIXED_PREC_SCALE",
    booleanColumn "AUTO_INCREMENT", textColumn "LOCAL_TYPE_NAME",
    smallintColumn "MINIMUM_SCALE", smallintColumn "MAXIMUM_SCALE",
    integerColumn "SQL_DATA_TYPE", integerColumn "SQL_DATETIME_SUB",
    integerColumn "NUM_PREC_RADIX"]

/-- The code of a type whose values may be null. -/
def typeNullable : Int16 := 1

/-- The code of a type that every kind of condition can search. -/
def typeSearchable : Int16 := 3

def typeInfoRow (descriptor : TypeDescriptor) : Row :=
  [.varchar descriptor.name, .integer descriptor.code,
    .integer (clamp32 descriptor.maxPrecision.toInt), .ofText? descriptor.literalPrefix,
    .ofText? descriptor.literalSuffix, .ofText? descriptor.params, .smallint typeNullable,
    .boolean descriptor.caseSensitive, .smallint typeSearchable, .boolean descriptor.unsigned,
    .boolean descriptor.fixedPrecisionScale, .boolean descriptor.autoIncrement,
    .varchar descriptor.name, .smallint (clamp16 descriptor.minScale.toInt),
    .smallint (clamp16 descriptor.maxScale.toInt), .null, .null,
    if descriptor.decimal then .integer 10 else .null]

/-- The supported data types. -/
def typeInfo (m : Metadata) : Except ViewError ResultTable := do
  m.checkOpen
  return ⟨typeInfoColumns, TypeDescriptor.visible.map typeInfoRow⟩

end CatalogViews.Metadata
