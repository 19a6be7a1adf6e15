import CatalogViews.Document.Node
import CatalogViews.Number.Reading
import CatalogViews.Text.Blank

/-!
# Plain values

The values of TOML that are written without quotes and brackets: truth values, integers, real
numbers and moments. Each is a single word, and `Scalar.ofWord?` says which value a word is.

An integer fits into 64 bits with a sign. Digits may be grouped by single underscores between them.
A real number is one whose magnitude is not too large to be told from positive infinity; a moment is
a date of the calendar, a time of day, or both with or without an offset.
-/

namespace CatalogViews.Toml

namespace Scalar

/-- The digits of a group of digits without the underscores between them. -/
def ungroup? (isDigit : Char → Bool) (text : List Char) : Option (List Char) :=
  if (Text.pieces (· == '_') text).all fun group => !group.isEmpty && group.all isDigit then
    some (text.filter (· != '_'))
  else none

/-- The digits of a decimal integer without its sign: no zero stands before another digit. -/
def decimalDigits? (text : List Char) : Option (List Char) := do
  let digits ← ungroup? Char.isDigit text
  guard (digits.length = 1 ∨ digits.head? ≠ some '0')
  return digits

/-- The sign of a number and the rest of it. -/
def splitSign : List Char → Bool × List Char
  | '-' :: text => (true, text)
  | '+' :: text => (false, text)
  | text => (false, text)

/-- The value of a digit in a base up to sixteen. -/
def digitValue (c : Char) : Nat :=
  if c.isDigit then c.toNat - '0'.toNat else c.toLower.toNat - 'a'.toNat + 10

/-- Whether a character is a digit in a base up to sixteen. -/
def isDigitOf (base : Nat) (c : Char) : Bool :=
  (c.isDigit || ('a' ≤ c.toLower && c.toLower ≤ 'f')) && digitValue c < base

/-- A natural number in some base. -/
def natOf? (base : Nat) (text : List Char) : Option Nat :=
  (ungroup? (isDigitOf base) text).map fun digits =>
    digits.foldl (fun n c => base * n + digitValue c) 0

/-- An integer. Only a decimal one may have a sign. -/
def integer? (text : List Char) : Option Int := do
  let value : Int ← match text with
    | '0' :: 'x' :: digits => (natOf? 16 digits).map Int.ofNat
    | '0' :: 'o' :: digits => (natOf? 8 digits).map Int.ofNat
    | '0' :: 'b' :: digits => (natOf? 2 digits).map Int.ofNat
    | _ =>
      let (negative, digits) := splitSign text
      let n ← Number.natOfDigits? (← decimalDigits? digits)
      pure (if negative then -(n : Int) else n)
  guard (Int64.minValue.toInt ≤ value ∧ value ≤ Int64.maxValue.toInt)
  return value

/-- A real number: an integer followed by a fraction, an exponent or both, or the words `inf` and
`nan`, after an optional sign. -/
def real? (text : List Char) : Option (Number.BinaryFloat .double) := do
  let (negative, body) := splitSign text
  match body with
  | ['i', 'n', 'f'] => some (.ofMagnitude negative Number.FloatFormat.double.infinity)
  | ['n', 'a', 'n'] => some (.nan negative)
  | _ =>
    let mantissa := body.takeWhile fun c => c != 'e' && c != 'E'
    let whole := mantissa.takeWhile (· != '.')
    let wholeDigits ← decimalDigits? whole
    let fractionDigits ← match mantissa.drop whole.length with
      | [] => some []
      | _ :: fraction => ungroup? Char.isDigit fraction
    let exponent ← match body.drop mantissa.length with
      | [] => guard (whole.length < mantissa.length) *> some 0
      | _ :: exponent =>
        let (negative, digits) := splitSign exponent
        let n ← Number.natOfDigits? (← ungroup? Char.isDigit digits)
        pure (if negative then -(n : Int) else n)
    let digits ← Number.natOfDigits? (wholeDigits ++ fractionDigits)
    let value := .ofDecimal negative digits (exponent - fractionDigits.length)
    guard (negative ∨ !value.isInfinite)
    return value

/-- A number of exactly so many digits within bounds. -/
def isCount (length least greatest : Nat) (text : List Char) : Bool :=
  text.length == length &&
    (Number.natOfDigits? text).any fun n => least ≤ n && n ≤ greatest

def daysIn (year month : Nat) : Nat :=
  if month = 2 then
    if year % 4 = 0 ∧ (year % 100 ≠ 0 ∨ year % 400 = 0) then 29 else 28
  else if month = 4 ∨ month = 6 ∨ month = 9 ∨ month = 11 then 30
  else 31

def isDate (text : List Char) : Bool :=
  match Text.pieces (· == '-') text with
  | [year, month, day] =>
    isCount 4 0 9999 year && isCount 2 1 12 month &&
      isCount 2 1 (daysIn ((Number.natOfDigits? year).getD 0)
        ((Number.natOfDigits? month).getD 0)) day
  | _ => false

def isHourAndMinute (text : List Char) : Bool :=
  match Text.pieces (· == ':') text with
  | [hour, minute] => isCount 2 0 23 hour && isCount 2 0 59 minute
  | _ => false

/-- Whether a text is a time of day: an hour, a minute and a second, which may have a fraction. -/
def isTime (text : List Char) : Bool :=
  isHourAndMinute (text.take 5) && (text.drop 5).head? == some ':' &&
    isCount 2 0 60 ((text.drop 6).take 2) &&
    match text.drop 8 with
    | [] => true
    | point :: fraction => point == '.' && !fraction.isEmpty && fraction.all Char.isDigit

/-- A time of day without its offset, which is `Z` or a sign, an hour and a minute. -/
def withoutOffset (text : List Char) : List Char :=
  let time := text.takeWhile fun c => c.isDigit || c == ':' || c == '.'
  match text.drop time.length with
  | ['Z'] | ['z'] => time
  | sign :: offset =>
    if (sign == '+' || sign == '-') && isHourAndMinute offset then time else text
  | [] => text

/-- Whether a text is a date and a time of day with `T` or a space between them. -/
def isDateAndTime (text : List Char) : Bool :=
  match text.drop 10 with
  | separator :: time =>
    isDate (text.take 10) && (separator == 'T' || separator == 't' || separator == ' ') &&
      isTime (withoutOffset time)
  | [] => false

def isMoment (text : List Char) : Bool :=
  isTime text || isDate text || isDateAndTime text

def ofWord? (word : List Char) : Option Node :=
  match word with
  | ['t', 'r', 'u', 'e'] => some (.boolean true)
  | ['f', 'a', 'l', 's', 'e'] => some (.boolean false)
  | _ =>
    if isMoment word then some (.moment (String.ofList word))
    else match integer? word with
      | some value => some (.integer value)
      | none => (real? word).map .real

end Scalar

end CatalogViews.Toml
