import CatalogViews.Value.ResultTable

/-!
# Comma-separated output

A result table as lines of fields: first the column names, then one line per row, each ended by a
line feed. A field that holds a comma, a quote or a line feed is written between quotes with every
quote inside it doubled. Null is the empty field.
-/

namespace CatalogViews.Render

/-- The text with every quote written twice. -/
def doubleQuotes (text : List Char) : List Char :=
  text.flatMap fun c => if c = '"' then ['"', '"'] else [c]

/-- Whether a field has to be written between quotes. -/
def needsQuotes (text : List Char) : Bool :=
  text.any fun c => c == ',' || c == '"' || c == '\n'

def csvField (text : List Char) : List Char :=
  if needsQuotes text then '"' :: doubleQuotes text ++ ['"'] else text

def csvLine (fields : List (List Char)) : List Char :=
  [','].intercalate (fields.map csvField) ++ ['\n']

/-- The text of a cell, empty for null. -/
def csvCell (value : Value) : List Char :=
  if value.isNull then [] else value.text.toList

/-- The fields of a table, the column names in the first line. -/
def csvFields (table : ResultTable) : List (List (List Char)) :=
  table.columnNames.map String.toList :: table.rows.map (·.map csvCell)

/-- A result table as comma-separated lines. -/
def csv (table : ResultTable) : String :=
  String.ofList ((csvFields table).flatMap csvLine)

end CatalogViews.Render
