import CatalogViews.Toml.Quoted
import CatalogViews.Toml.Tree

/-!
# Keys and values

The readers of the two sides of an assignment. A value is a single word, a quoted text, an array or
a table between braces. Arrays and tables nest to a fixed depth, which is what the recursion of
`readValue` runs on; a key has at most as many names.
-/

namespace CatalogViews.Toml

open Reader

/-- The greatest depth of nested values and the greatest number of names of a key. -/
def depthLimit : Nat := 79

/-- The characters of a name without quotes. -/
def isNameChar (c : Char) : Bool :=
  c.isAlphanum || c == '-' || c == '_'

/-- The characters of a value that is a single word. -/
def isWordChar (c : Char) : Bool :=
  c.isAlphanum || c == '-' || c == '_' || c == '+' || c == '.' || c == ':'

def readName : Reader String := do
  match ← peek? with
  | some '"' | some '\'' => String.ofList <$> Quoted.onLine
  | _ =>
    let name ← takeWhile isNameChar
    guard (name ≠ [])
    return String.ofList name

/-- A key: names with points between them and spaces around them. -/
def readKey : Reader Key := do
  spaces
  let first ← readName
  spaces
  let others ← many do
    if (← peek?) = some '.' then
      char '.'
      spaces
      let name ← readName
      spaces
      return some name
    else return none
  guard (others.length < depthLimit)
  match others.reverse with
  | [] => return ⟨[], first⟩
  | name :: path => return ⟨first :: path.reverse, name⟩

/-- A value that is a single word. A time of day may follow its date after a space. -/
def readWord : Reader Node := do
  let word ← takeWhile isWordChar
  let timeFollows : Bool := Scalar.isDate word && ((← get).head? == some ' ') &&
    ((← get).drop 1).head?.any Char.isDigit
  if timeFollows then
    char ' '
    let time ← takeWhile isWordChar
    Scalar.ofWord? (word ++ ' ' :: time)
  else Scalar.ofWord? word

/-- An array: values with commas between them and perhaps after the last one. -/
def readArray (value : Reader Node) : Reader Node := do
  char '['
  let elements ← many do
    layout
    if (← peek?) = some ']' then return none
    let element ← value
    layout
    unless (← peek?) = some ']' do char ','
    return some element
  char ']'
  return .list elements

def readPair (value : Reader Node) : Reader (Key × Node) := do
  let key ← readKey
  char '='
  spaces
  return (key, ← value)

/-- The pairs of a table between braces, with commas between them, on one line. -/
def readPairs (value : Reader Node) : Reader (List (Key × Node)) := do
  spaces
  if (← peek?) = some '\x7d' then return []
  let first ← readPair value
  spaces
  let others ← many do
    if (← peek?) = some ',' then
      char ','
      let pair ← readPair value
      spaces
      return some pair
    else return none
  return first :: others

/-- A table between braces. It is closed: no later line adds to it. -/
def readTable (value : Reader Node) : Reader Node := do
  char '\x7b'
  let pairs ← readPairs value
  char '\x7d'
  let entries ← pairs.foldlM (fun entries (key, node) => Entries.assign key node .header entries)
    ([] : Entries)
  return Entries.toNode entries

/-- A value in which arrays and tables are nested to at most the given depth. -/
def readValue : Nat → Reader Node
  | 0 => do
    match ← peek? with
    | some '"' => .text <$> String.ofList <$> Quoted.text '"'
    | some '\'' => .text <$> String.ofList <$> Quoted.text '\''
    | _ => readWord
  | depth + 1 => do
    match ← peek? with
    | some '[' => readArray (readValue depth)
    | some '\x7b' => readTable (readValue depth)
    | _ => readValue 0

end CatalogViews.Toml
