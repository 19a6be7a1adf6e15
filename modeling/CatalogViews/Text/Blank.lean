/-!
# Blanks and cutting

The characters with the Unicode `White_Space` property, and the few ways in which this library cuts
a text: at blanks, at a separator, at its first separator, and at line ends. Everything works on
lists of characters; the operations on `String` are wrappers.
-/

namespace CatalogViews.Text

/-- The characters with the Unicode `White_Space` property. -/
def isBlank (c : Char) : Bool :=
  let n := c.toNat
  (9 ≤ n && n ≤ 13) || n == 0x20 || n == 0x85 || n == 0xA0 || n == 0x1680 ||
    (0x2000 ≤ n && n ≤ 0x200A) || n == 0x2028 || n == 0x2029 || n == 0x202F || n == 0x205F ||
    n == 0x3000

/-- The text without the blanks at its two ends. -/
def trimChars (text : List Char) : List Char :=
  ((text.dropWhile isBlank).reverse.dropWhile isBlank).reverse

/-- The text without the blanks at its two ends. -/
def trim (text : String) : String :=
  String.ofList (trimChars text.toList)

/-- The pieces between the characters that satisfy `isSeparator`; there is one more piece than
there are separators, and a piece may be empty. -/
def pieces (isSeparator : Char → Bool) : List Char → List (List Char)
  | [] => [[]]
  | c :: text =>
    if isSeparator c then [] :: pieces isSeparator text
    else match pieces isSeparator text with
      | [] => [[c]]
      | piece :: rest => (c :: piece) :: rest

/-- The longest runs of characters that are not blank. -/
def words (text : List Char) : List (List Char) :=
  (pieces isBlank text).filter (!·.isEmpty)

/-- The parts before and after the first `separator`, if there is one. -/
def cut? (separator : Char) : List Char → Option (List Char × List Char)
  | [] => none
  | c :: text =>
    if c = separator then some ([], text)
    else (cut? separator text).map fun (before, after) => (c :: before, after)

/-- The parts of a text before and after the first `separator`, if there is one. -/
def cutText? (separator : Char) (text : String) : Option (String × String) :=
  (cut? separator text.toList).map fun (before, after) =>
    (String.ofList before, String.ofList after)

/-- A line that was ended by a line feed, without a carriage return before the line feed. -/
def chompReturn (line : List Char) : List Char :=
  match line.reverse with
  | '\r' :: rest => rest.reverse
  | _ => line

/-- The lines of a text. A line feed ends a line, alone or after a carriage return, so a text that
ends in a line feed has no empty last line and the empty text has no line at all. -/
def lines (text : List Char) : List (List Char) :=
  let parts := pieces (· == '\n') text
  let last := parts.getLastD []
  parts.dropLast.map chompReturn ++ if last.isEmpty then [] else [last]

end CatalogViews.Text
