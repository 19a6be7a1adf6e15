import CatalogViews.Toml.Reader
import CatalogViews.Toml.Scalar

/-!
# Quoted texts

The four quoted forms of TOML. A basic text stands between double quotes and has escapes; a literal
text stands between single quotes and has none. Between three quotes each of them may go on over
several lines. No form holds a control character other than a tab, and a line end inside a text is a
line feed whichever way it is written.
-/

namespace CatalogViews.Toml

namespace Quoted

open Reader

/-- Whether a character may stand in a quoted text by itself. -/
def isTextChar (c : Char) : Bool :=
  isCommentChar c

/-- A character given by its number in a certain number of hexadecimal digits. -/
def charOfNumber (length : Nat) : Reader Char := do
  let digits ← take length
  guard (digits.all (Scalar.isDigitOf 16))
  let n := digits.foldl (fun n c => 16 * n + Scalar.digitValue c) 0
  if n.isValidChar then return Char.ofNat n else failure

/-- The character that an escape stands for, after the backslash. -/
def escape : Reader Char := do
  match ← next with
  | 'b' => return Char.ofNat 8
  | 't' => return '\t'
  | 'n' => return '\n'
  | 'f' => return Char.ofNat 12
  | 'r' => return '\r'
  | '"' => return '"'
  | '\\' => return '\\'
  | 'u' => charOfNumber 4
  | 'U' => charOfNumber 8
  | _ => failure

/-- A character of a basic text on one line, none at the closing quote. -/
def basicChar? : Reader (Option Char) := do
  match ← peek? with
  | some '"' => return none
  | some '\\' =>
    char '\\'
    some <$> escape
  | _ =>
    let c ← next
    guard (isTextChar c)
    return some c

/-- A text between two double quotes. -/
def basic : Reader (List Char) := do
  char '"'
  let text ← many basicChar?
  char '"'
  return text

/-- A text between two single quotes. -/
def literal : Reader (List Char) := do
  char '\''
  let text ← takeWhile fun c => c != '\'' && isTextChar c
  char '\''
  return text

/-- Whether the rest of the line holds nothing but spaces. -/
def atBlankEnd : Reader Bool := fun text =>
  match text.dropWhile isSpace with
  | '\n' :: _ | '\r' :: '\n' :: _ => some (true, text)
  | _ => some (false, text)

/-- A part of a text on several lines, none at the closing quotes. In a basic text a backslash at
the end of a line stands for nothing together with all spaces and line ends after it. -/
def linesPart? (quote : Char) : Reader (Option (List Char)) := do
  if ← isNext (List.replicate 3 quote) then return none
  if ← lineEnd? then return some ['\n']
  if quote = '"' ∧ (← peek?) = some '\\' then
    char '\\'
    if ← atBlankEnd then
      spacesAndLineEnds
      return some []
    else
      return some [← escape]
  let c ← next
  guard (isTextChar c)
  return some [c]

/-- A text between three quotes at each side. A line end right after the opening quotes is not part
of it. One or two quotes may stand right before the closing ones. -/
def onLines (quote : Char) : Reader (List Char) := do
  chars (List.replicate 3 quote)
  discard lineEnd?
  let parts ← many (linesPart? quote)
  let quotes ← takeWhile (· = quote)
  guard (quotes.length ≤ 5)
  return parts.flatten ++ quotes.drop 3

def onLine : Reader (List Char) := do
  if (← peek?) = some '"' then basic else literal

def text (quote : Char) : Reader (List Char) := do
  if ← isNext (List.replicate 3 quote) then onLines quote else onLine

end Quoted

end CatalogViews.Toml
