import CatalogViews.Text.Blank

/-!
# Readers

A reader takes a value off the front of a text. It looks at no more of the text than it needs to
know which construct comes next, so there is nothing to go back to when it fails.

Also here are the parts of a TOML document that carry no value: blanks, line ends and comments.
-/

namespace CatalogViews.Toml

/-- Takes a value off the front of a text. -/
abbrev Reader := StateT (List Char) Option

namespace Reader

/-- The next character, which stays. -/
def peek? : Reader (Option Char) := fun text => some (text.head?, text)

/-- Whether the text goes on with the given characters, which stay. -/
def isNext (chars : List Char) : Reader Bool := fun text => some (chars.isPrefixOf text, text)

/-- Takes the next character, if there is one. -/
def next : Reader Char
  | [] => none
  | c :: text => some (c, text)

/-- Takes a certain character. -/
def char (expected : Char) : Reader Unit := do
  guard ((← next) = expected)

/-- Takes certain characters. -/
def chars (expected : List Char) : Reader Unit :=
  expected.forM char

/-- Takes the longest run of characters that satisfy a condition. -/
def takeWhile (condition : Char → Bool) : Reader (List Char) := fun text =>
  some (text.span condition)

/-- Takes a number of characters. -/
def take (count : Nat) : Reader (List Char) := fun text =>
  let (front, rest) := text.splitAt count
  if front.length = count then some (front, rest) else none

/-- Reads items one after another until `item?` finds that there are no more, at most one for each
character of `bound` but the last. -/
def manyWithin {α : Type} (item? : Reader (Option α)) : List Char → Reader (List α)
  | [], _ => none
  | _ :: bound, text => do
    match ← item? text with
    | (none, rest) => some ([], rest)
    | (some item, rest) =>
      (manyWithin item? bound rest).map fun (items, rest) => (item :: items, rest)

/-- Reads items one after another until `item?` finds that there are no more. Every item takes at
least one character, so there are at most as many of them as there are characters. -/
def many {α : Type} (item? : Reader (Option α)) : Reader (List α) := fun text =>
  manyWithin item? (' ' :: text) text

end Reader

/-- Spaces and tabs. -/
def isSpace (c : Char) : Bool :=
  c == ' ' || c == '\t'

def isCommentChar (c : Char) : Bool :=
  c == '\t' || (0x20 ≤ c.toNat && c.toNat ≠ 0x7F)

open Reader

/-- Skips spaces and tabs. -/
def spaces : Reader Unit := do
  discard <| takeWhile isSpace

/-- Takes a line end, a line feed or a carriage return and a line feed, if there is one. -/
def lineEnd? : Reader Bool := fun text =>
  match text with
  | '\n' :: rest => some (true, rest)
  | '\r' :: '\n' :: rest => some (true, rest)
  | _ => some (false, text)

/-- Takes a comment, if there is one. -/
def comment : Reader Unit := do
  if (← peek?) = some '#' then discard <| takeWhile isCommentChar

/-- Takes the end of a line: spaces, perhaps a comment, and a line end or the end of the text. -/
def restOfLine : Reader Unit := do
  spaces
  comment
  unless ← lineEnd? do guard ((← peek?) = none)

def spacesAndLineEnds : Reader Unit := do
  discard <| many do
    if ((← peek?).any isSpace) then
      spaces
      return some ()
    else return if ← lineEnd? then some () else none

/-- Skips spaces, line ends and comments. A comment goes on to the end of its line. -/
def layout : Reader Unit := do
  spaces
  discard <| many do
    if (← peek?) = some '#' then
      restOfLine
      spaces
      return some ()
    else if ← lineEnd? then
      spaces
      return some ()
    else return none

end CatalogViews.Toml
