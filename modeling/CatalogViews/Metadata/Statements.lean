import CatalogViews.Metadata.Basic

/-!
# Views that run statements

Procedures and privileges are answered by fixed statements, which the session runs with the
arguments of the view bound to their parameters. An absent pattern binds `%`, which matches every
name; the empty schema argument binds the name of the main schema. The lists of functions come from
the help of the session.
-/

namespace CatalogViews.Metadata

/-- The statement behind `procedures`. -/
def proceduresSql : String :=
  " ".intercalate
    ["SELECT", "ALIAS_CATALOG PROCEDURE_CAT,", "ALIAS_SCHEMA PROCEDURE_SCHEM,",
      "ALIAS_NAME PROCEDURE_NAME,", "COLUMN_COUNT NUM_INPUT_PARAMS,", "ZERO() NUM_OUTPUT_PARAMS,",
      "ZERO() NUM_RESULT_SETS,", "REMARKS,", "RETURNS_RESULT PROCEDURE_TYPE,",
      "ALIAS_NAME SPECIFIC_NAME", "FROM INFORMATION_SCHEMA.FUNCTION_ALIASES",
      "WHERE ALIAS_CATALOG LIKE ?1 ESCAPE ?4", "AND ALIAS_SCHEMA LIKE ?2 ESCAPE ?4",
      "AND ALIAS_NAME LIKE ?3 ESCAPE ?4",
      "ORDER BY PROCEDURE_SCHEM, PROCEDURE_NAME, NUM_INPUT_PARAMS"]

/-- The statement behind `procedureColumns`. -/
def procedureColumnsSql : String :=
  " ".intercalate
    ["SELECT", "ALIAS_CATALOG PROCEDURE_CAT,", "ALIAS_SCHEMA PROCEDURE_SCHEM,",
      "ALIAS_NAME PROCEDURE_NAME,", "COLUMN_NAME,", "COLUMN_TYPE,", "DATA_TYPE,", "TYPE_NAME,",
      "PRECISION,", "PRECISION LENGTH,", "SCALE,", "RADIX,", "NULLABLE,", "REMARKS,",
      "COLUMN_DEFAULT COLUMN_DEF,", "ZERO() SQL_DATA_TYPE,", "ZERO() SQL_DATETIME_SUB,",
      "ZERO() CHAR_OCTET_LENGTH,", "POS ORDINAL_POSITION,", "?1 IS_NULLABLE,",
      "ALIAS_NAME SPECIFIC_NAME", "FROM INFORMATION_SCHEMA.FUNCTION_COLUMNS",
      "WHERE ALIAS_CATALOG LIKE ?2 ESCAPE ?6", "AND ALIAS_SCHEMA LIKE ?3 ESCAPE ?6",
      "AND ALIAS_NAME LIKE ?4 ESCAPE ?6", "AND COLUMN_NAME LIKE ?5 ESCAPE ?6",
      "ORDER BY PROCEDURE_SCHEM, PROCEDURE_NAME, ORDINAL_POSITION"]

/-- The statement behind `columnPrivileges`. -/
def columnPrivilegesSql : String :=
  " ".intercalate
    ["SELECT", "TABLE_CATALOG TABLE_CAT,", "TABLE_SCHEMA TABLE_SCHEM,", "TABLE_NAME,",
      "COLUMN_NAME,", "GRANTOR,", "GRANTEE,", "PRIVILEGE_TYPE PRIVILEGE,", "IS_GRANTABLE",
      "FROM INFORMATION_SCHEMA.COLUMN_PRIVILEGES", "WHERE TABLE_CATALOG LIKE ?1 ESCAPE ?5",
      "AND TABLE_SCHEMA LIKE ?2 ESCAPE ?5", "AND TABLE_NAME = ?3",
      "AND COLUMN_NAME LIKE ?4 ESCAPE ?5", "ORDER BY COLUMN_NAME, PRIVILEGE"]

/-- The statement behind `tablePrivileges`. -/
def tablePrivilegesSql : String :=
  " ".intercalate
    ["SELECT", "TABLE_CATALOG TABLE_CAT,", "TABLE_SCHEMA TABLE_SCHEM,", "TABLE_NAME,", "GRANTOR,",
      "GRANTEE,", "PRIVILEGE_TYPE PRIVILEGE,", "IS_GRANTABLE",
      "FROM INFORMATION_SCHEMA.TABLE_PRIVILEGES", "WHERE TABLE_CATALOG LIKE ?1 ESCAPE ?4",
      "AND TABLE_SCHEMA LIKE ?2 ESCAPE ?4", "AND TABLE_NAME LIKE ?3 ESCAPE ?4",
      "ORDER BY TABLE_SCHEM, TABLE_NAME, PRIVILEGE"]

/-- The bound value that matches every name. -/
def anyName : Value := .varchar "%"

/-- The value bound for a catalog argument. -/
def catalogParam : Option String → Value
  | none => anyName
  | some name => if name.isEmpty then anyName else .varchar name

/-- The value bound for a schema argument. -/
def schemaParam (m : Metadata) : Option String → Value
  | none => anyName
  | some name =>
    if name.isEmpty then (m.catalog.mainSchema?.map fun main => .varchar main.name).getD anyName
    else .varchar name

/-- The value bound for another pattern argument. -/
def patternParam : Option String → Value
  | none => anyName
  | some pattern => .varchar pattern

/-- The value bound for the escape character. -/
def escapeParam (m : Metadata) : Value :=
  .varchar (String.singleton m.settings.searchEscape)

/-- The procedures that match the patterns. -/
def procedures (m : Metadata) (catalog schema procedure : Option String) : Statement :=
  ⟨proceduresSql, [catalogParam catalog, m.schemaParam schema, patternParam procedure,
    m.escapeParam]⟩

/-- The parameters of the procedures that match the patterns. -/
def procedureColumns (m : Metadata) (catalog schema procedure column : Option String) :
    Statement :=
  ⟨procedureColumnsSql, [.varchar "YES", catalogParam catalog, m.schemaParam schema,
    patternParam procedure, patternParam column, m.escapeParam]⟩

/-- The privileges on the columns of one table, whose name is compared exactly. -/
def columnPrivileges (m : Metadata) (catalog schema table column : Option String) : Statement :=
  ⟨columnPrivilegesSql, [catalogParam catalog, m.schemaParam schema, .ofText? table,
    patternParam column, m.escapeParam]⟩

/-- The privileges on the tables that match the patterns. -/
def tablePrivileges (m : Metadata) (catalog schema table : Option String) : Statement :=
  ⟨tablePrivilegesSql, [catalogParam catalog, m.schemaParam schema, patternParam table,
    m.escapeParam]⟩

/-- A section of the help that lists functions. -/
inductive FunctionSection where
  | numeric
  | string
  | system
  | timeDate
deriving Repr, DecidableEq

def FunctionSection.title : FunctionSection → String
  | numeric => "Functions (Numeric)"
  | string => "Functions (String)"
  | system => "Functions (System)"
  | timeDate => "Functions (Time and Date)"

/-- The name of the function that a help topic is about: what stands before the first space. -/
def functionName (topic : String) : String :=
  let topic := Text.trim topic
  ((Text.cutText? ' ' topic).map (·.1)).getD topic

/-- The names of the functions of a section, with commas between them. -/
def functions (m : Metadata) (which : FunctionSection) : Except ViewError String := do
  m.checkOpen
  let topics := m.session.help.filter fun entry => Text.trim entry.heading == which.title
  return ",".intercalate (topics.map fun entry => functionName entry.topic)

/-- The escape character of pattern arguments. -/
def searchStringEscape (m : Metadata) : Except ViewError String := do
  m.checkOpen
  return String.singleton m.settings.searchEscape

/-- The words that the dialect reserves on top of the standard. -/
def reservedWords : List String :=
  ["CURRENT_CATALOG", "CURRENT_SCHEMA", "GROUPS", "IF", "ILIKE", "INTERSECTS", "LIMIT", "MINUS",
    "OFFSET", "QUALIFY", "REGEXP", "ROWNUM", "SYSDATE", "SYSTIME", "SYSTIMESTAMP", "TODAY", "TOP",
    "_ROWID_"]

/-- The reserved words with commas between them. -/
def sqlKeywords (m : Metadata) : Except ViewError String := do
  m.checkOpen
  return ",".intercalate reservedWords

end CatalogViews.Metadata
