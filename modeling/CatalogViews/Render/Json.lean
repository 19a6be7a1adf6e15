import CatalogViews.Value.ResultTable

/-!
# JSON output

A result table as an array of objects, one per row, laid out over lines with two spaces per level.
The members of an object are sorted by name; of several columns of one name the last one counts.
Null, truth values and integers of up to 64 bits keep their types, every other cell is its display
text.
-/

namespace CatalogViews.Render

def hexDigit (n : Nat) : Char :=
  (Nat.digitChar n)

/-- A character inside a quoted text. -/
def jsonChar (c : Char) : List Char :=
  match c with
  | '"' => ['\\', '"']
  | '\\' => ['\\', '\\']
  | '\n' => ['\\', 'n']
  | '\r' => ['\\', 'r']
  | '\t' => ['\\', 't']
  | _ =>
    if c.toNat = 8 then ['\\', 'b']
    else if c.toNat = 12 then ['\\', 'f']
    else if c.toNat < 32 then
      ['\\', 'u', '0', '0', hexDigit (c.toNat / 16), hexDigit (c.toNat % 16)]
    else [c]

def jsonText (text : String) : List Char :=
  '"' :: text.toList.flatMap jsonChar ++ ['"']

def jsonCell (value : Value) : List Char :=
  match value with
  | .null => "null".toList
  | .boolean b => (if b then "true" else "false").toList
  | _ =>
    match value.int64? with
    | some n => (toString n.toInt).toList
    | none => jsonText value.text

/-- The members of an object without those that a later member of the same name replaces. -/
def lastMembers (members : List (String × Value)) : List (String × Value) :=
  members.foldr (fun member kept =>
    if kept.any (·.1 == member.1) then kept else member :: kept) []

/-- The members of the object of a row, in order. -/
def jsonMembers (names : List String) (row : Row) : List (String × Value) :=
  (lastMembers (names.zip row)).mergeSort fun a b => (Text.compareText a.1 b.1).isLE

/-- Items between brackets, each on its own line, or nothing between them. -/
def jsonBlock (opening closing : Char) (indent : Nat) (items : List (List Char)) : List Char :=
  if items.isEmpty then [opening, closing]
  else
    let inner := '\n' :: List.replicate (indent + 2) ' '
    opening :: [','].intercalate (items.map (inner ++ ·)) ++
      '\n' :: List.replicate indent ' ' ++ [closing]

def jsonRow (names : List String) (row : Row) : List Char :=
  jsonBlock '\x7b' '\x7d' 2 ((jsonMembers names row).map fun (name, value) =>
    jsonText name ++ [':', ' '] ++ jsonCell value)

/-- A result table as an array of objects. -/
def json (table : ResultTable) : String :=
  String.ofList (jsonBlock '[' ']' 0 (table.rows.map (jsonRow table.columnNames)) ++ ['\n'])

end CatalogViews.Render
