import CatalogViews.Render.Csv
import CatalogViews.Render.Grid
import CatalogViews.Render.Json

/-!
# Output formats

The formats in which a result table is written. Letter case in the name of a format does not matter;
only ASCII letters have lowercase forms among the letters of these names.
-/

namespace CatalogViews.Render

/-- A format in which a result table is written. -/
inductive OutputFormat where
  | grid
  | json
  | csv
deriving Repr, DecidableEq

namespace OutputFormat

def ofName? (name : String) : Option OutputFormat :=
  match String.ofList (name.toList.map Char.toLower) with
  | "table" => some grid
  | "json" => some json
  | "csv" => some csv
  | _ => none

def render : OutputFormat → ResultTable → String
  | grid, table => Render.grid table
  | json, table => Render.json table
  | csv, table => Render.csv table

end OutputFormat

end CatalogViews.Render
