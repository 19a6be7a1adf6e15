import CatalogViews.Text.Blank
import CatalogViews.Text.Width
import CatalogViews.Value.ResultTable

/-!
# Output as a grid

A result table drawn with ruled lines. Every column is as wide as its widest line; a cell of several
lines makes its row as high as it needs. The line under the column names is drawn with equals signs,
all others with hyphens.
-/

namespace CatalogViews.Render

/-- The lines of a cell. -/
abbrev GridCell := List (List Char)

def gridCell (text : String) : GridCell :=
  Text.lines text.toList

/-- The progress of a reader of terminal escape sequences. -/
inductive EscapeState where
  | normal
  /-- After the escape character. -/
  | escape
  /-- Inside a sequence. -/
  | bracket
  /-- At the letter that ends a sequence. -/
  | done
deriving DecidableEq

/-- The state after a character. A sequence starts with the escape character and a bracket and ends
with the letter `m`. -/
def EscapeState.next (state : EscapeState) (c : Char) : EscapeState :=
  let escape := c.toNat == 27
  match state with
  | .normal => if escape then .escape else .normal
  | .escape => if c == '[' then .bracket else .normal
  | .bracket => if c == 'm' then .done else .bracket
  | .done => if escape then .escape else .normal

/-- The number of characters of a line that belong to escape sequences and take no column, although
they would by themselves. -/
def hiddenChars (line : List Char) : Nat :=
  (line.foldl (fun (count, state) c =>
    let state := EscapeState.next state c
    let hidden := (state == .bracket || state == .done) && Text.charWidth c != 0
    (if hidden then count + 1 else count, state)) (0, .normal)).1

def lineWidth (line : List Char) : Nat :=
  Text.width line - hiddenChars line

def cellWidth (cell : GridCell) : Nat :=
  (cell.map lineWidth).foldl max 0

def columnWidths (rows : List (List GridCell)) : List Nat :=
  let count := (rows.map (·.length)).foldl max 0
  (List.range count).map fun column =>
    (rows.map fun row => cellWidth (row.getD column [])).foldl max 0

def ruledLine (fill : Char) (widths : List Nat) : List Char :=
  '+' :: ['+'].intercalate (widths.map fun width => List.replicate (width + 2) fill) ++ ['+', '\n']

/-- A line of a cell with spaces up to the width of its column and one at each side. -/
def paddedLine (width : Nat) (line : List Char) : List Char :=
  ' ' :: line ++ List.replicate (width - lineWidth line) ' ' ++ [' ']

def gridRow (widths : List Nat) (row : List GridCell) : List Char :=
  let height := (row.map (·.length)).foldl max 1
  (List.range height).flatMap fun line =>
    '|' :: ['|'].intercalate (widths.zipIdx.map fun (width, column) =>
      paddedLine width ((row.getD column []).getD line [])) ++ ['|', '\n']

def grid (table : ResultTable) : String :=
  let titles := table.columnNames.map gridCell
  let rows := table.rows.map (·.map fun value => gridCell value.text)
  let widths := columnWidths (titles :: rows)
  let body := (ruledLine '-' widths).intercalate (rows.map (gridRow widths))
  String.ofList (ruledLine '-' widths ++ gridRow widths titles ++ ruledLine '=' widths ++ body ++
    ruledLine '-' widths)

end CatalogViews.Render
