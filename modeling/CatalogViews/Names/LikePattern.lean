import CatalogViews.Text.Uppercase

/-!
# Patterns for names

A pattern is a text in which `%` stands for any sequence of characters and `_` for any single one,
unless the escape character stands before it. The escape character makes whatever follows it an
ordinary character, and a pattern may not end right after it.

`LikePattern.compile?` turns a text into a list of tokens, in which neighbouring `%` are one token,
and `LikePattern.isMatch` decides whether a name matches. The decision goes through the tokens and
the name together and goes back to the last sequence when it fails. A sequence at the end of the
tokens takes what is left without a search.
-/

namespace CatalogViews

/-- An element of a pattern. -/
inductive LikeToken where
  | literal (c : Char)
  | anyChar
  | anySequence
deriving Repr, DecidableEq

structure LikePattern where
  source : String
  tokens : List LikeToken
  ignoreCase : Bool
deriving Repr, DecidableEq

namespace LikePattern

/-- The token of a character that no escape character precedes. -/
def plainToken (c : Char) : LikeToken :=
  if c = '%' then .anySequence else if c = '_' then .anyChar else .literal c

/-- Adds a token to the tokens read so far, of which the last is in front. A sequence right after a
sequence adds nothing. -/
def pushToken : LikeToken → List LikeToken → List LikeToken
  | .anySequence, .anySequence :: read => .anySequence :: read
  | token, read => token :: read

/-- The tokens read so far and those of a pattern text; `none` when the text ends after an escape
character that escapes nothing. -/
def scan? (escape : Char) (read : List LikeToken) : List Char → Option (List LikeToken)
  | [] => some read.reverse
  | c :: text =>
    if c = escape then
      match text with
      | [] => none
      | d :: rest => scan? escape (.literal d :: read) rest
    else scan? escape (pushToken (plainToken c) read) text

/-- The compiled form of a pattern text, if the text is well formed. -/
def compile? (source : String) (escape : Char) (ignoreCase : Bool) : Option LikePattern :=
  (scan? escape [] source.toList).map fun tokens => ⟨source, tokens, ignoreCase⟩

/-- Whether a character of a name agrees with a character of a pattern. -/
def charMatches (ignoreCase : Bool) (a b : Char) : Bool :=
  a == b || (ignoreCase && Text.uppercase a == Text.uppercase b)

/-- Whether some suffix of a text passes a test, the longest first. -/
def anySuffix (test : List Char → Bool) : List Char → Bool
  | [] => test []
  | c :: text => test (c :: text) || anySuffix test text

/-- Whether the tokens that are left match what is left of a name. -/
def matchFrom (ignoreCase : Bool) : List LikeToken → List Char → Bool
  | [], text => text.isEmpty
  | [.anySequence], _ => true
  | .anySequence :: tokens, text => anySuffix (matchFrom ignoreCase tokens) text
  | .anyChar :: tokens, _ :: text => matchFrom ignoreCase tokens text
  | .literal expected :: tokens, c :: text =>
    charMatches ignoreCase c expected && matchFrom ignoreCase tokens text
  | _, [] => false

def isMatch (pattern : LikePattern) (name : String) : Bool :=
  matchFrom pattern.ignoreCase pattern.tokens name.toList

/-- Whether a name matches a pattern; every name matches where there is no pattern. -/
def accepts (pattern : Option LikePattern) (name : String) : Bool :=
  match pattern with
  | some pattern => pattern.isMatch name
  | none => true

end LikePattern

end CatalogViews
