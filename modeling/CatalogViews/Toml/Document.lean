import CatalogViews.Toml.Value

/-!
# TOML documents

A document is a list of lines: assignments and headers, with blank lines and comments between them.
`readLines` finds the lines, `Lines.entries?` carries them out one after another on an empty table,
and `document?` is the table that results. A text that breaks a rule of the notation has no value;
which rule it breaks is not told.
-/

namespace CatalogViews.Toml

open Reader

/-- A line of a document. -/
inductive Line where
  | assignment (key : Key) (node : Node)
  /-- The header of a table. -/
  | table (key : Key)
  /-- The header of a further element of an array of tables. -/
  | element (key : Key)

def readHeader : Reader Line := do
  if ← isNext ['[', '['] then
    chars ['[', '[']
    let key ← readKey
    chars [']', ']']
    return .element key
  else
    char '['
    let key ← readKey
    char ']'
    return .table key

/-- A line, none at the end of the text. -/
def readLine? : Reader (Option Line) := do
  layout
  match ← peek? with
  | none => return none
  | some '[' =>
    let line ← readHeader
    restOfLine
    return some line
  | some _ =>
    let (key, node) ← readPair (readValue depthLimit)
    restOfLine
    return some (.assignment key node)

def lines? (text : List Char) : Option (List Line) :=
  (many readLine? text).map (·.1)

/-- The tables of a document that have been read and the path of the open one. -/
structure Progress where
  entries : Entries := []
  path : List String := []

namespace Progress

/-- The names of a key, one after another. -/
def names (key : Key) : List String :=
  key.path ++ [key.name]

/-- Carries out a line. -/
def step (progress : Progress) : Line → Option Progress
  | .assignment key node => do
    let entries ← Entries.assignAt progress.path key node progress.entries
    return { progress with entries }
  | .table key => do
    let entries ← Entries.openTable key progress.entries
    return { entries, path := names key }
  | .element key => do
    let entries ← Entries.openElement key progress.entries
    return { entries, path := names key }

end Progress

/-- The table of a document. A mark of the byte order in front of it does not count. -/
def document? (source : String) : Option Node := do
  let text := match source.toList with
    | '\uFEFF' :: text => text
    | text => text
  let progress ← (← lines? text).foldlM Progress.step {}
  return Entries.toNode progress.entries

end CatalogViews.Toml
