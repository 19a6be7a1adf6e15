import CatalogViews.Text.WidthTable

/-!
# Width of a text

The number of columns that a line of text takes on a terminal. Most characters take one column, wide
ones two, marks and invisible ones none. Some sequences take fewer columns than their characters do:
letters of a few scripts that join to one sign, a character and a selector that asks for a picture
or for a text, two letters that make a flag, a picture and a skin tone, and pictures tied together
by a joiner. The text is read from its end, since what follows a character decides how it is shown.
-/

namespace CatalogViews.Text

def inRanges (ranges : List (Nat × Nat)) (c : Char) : Bool :=
  ranges.any fun (first, last) => first ≤ c.toNat && c.toNat ≤ last

def isControl (c : Char) : Bool :=
  c.toNat < 0x20 || (0x7F ≤ c.toNat && c.toNat < 0xA0)

/-- The columns that a character takes by itself. Control characters take none. A Khmer sign that
stands for a whole word takes three. -/
def charWidth (c : Char) : Nat :=
  if isControl c then 0
  else if c.toNat < 0x7F then 1
  else if c.toNat == 0x17D8 then 3
  else if inRanges zeroWidthRanges c then 0
  else if inRanges wideRanges c then 2
  else 1

/-- The joiner, which ties the characters around it together. -/
def joiner : Char := Char.ofNat 0x200D

/-- The selector that asks for a picture. -/
def pictureSelector : Char := Char.ofNat 0xFE0F

/-- The selector that asks for a text. -/
def textSelector : Char := Char.ofNat 0xFE0E

/-- Whether a character is a letter of a flag. Two of them name a country. -/
def isFlagLetter (c : Char) : Bool :=
  0x1F1E6 ≤ c.toNat && c.toNat ≤ 0x1F1FF

def isTone (c : Char) : Bool :=
  0x1F3FB ≤ c.toNat && c.toNat ≤ 0x1F3FF

/-- Whether a character starts a picture when the selector for pictures follows it. -/
def isSelectable (c : Char) : Bool :=
  inRanges selectableRanges c

/-- Whether a character shrinks to one column when the selector for texts follows it. Ideographs in
a frame stay wide. -/
def shrinksToText (c : Char) : Bool :=
  isSelectable c && inRanges pictureRanges c && !(0x1F200 ≤ c.toNat && c.toNat ≤ 0x1F2FF)

/-- Whether a character is invisible and lets the letters around it join. -/
def isTransparent (c : Char) : Bool :=
  inRanges [(0x34F, 0x34F), (0x17B4, 0x17B5), (0x180B, 0x180D), (0x180F, 0x180F), (0x200D, 0x200D),
    (0xFE00, 0xFE0F), (0xE0100, 0xE01EF)] c

/-- Whether a character is a form of the Arabic letter alef. -/
def isAlef (c : Char) : Bool :=
  inRanges [(0x622, 0x623), (0x625, 0x625), (0x627, 0x627), (0x671, 0x673), (0x675, 0x675),
    (0x773, 0x774), (0x870, 0x882)] c

/-- Whether a character is a form of the Arabic letter lam. -/
def isLam (c : Char) : Bool :=
  inRanges [(0x644, 0x644), (0x6B5, 0x6B8), (0x76A, 0x76A), (0x8A6, 0x8A6), (0x8C7, 0x8C7)] c

/-- Whether a character is a Khmer letter that can be written below another one. -/
def isSubscriptLetter (c : Char) : Bool :=
  inRanges [(0x1780, 0x1782), (0x1784, 0x1787), (0x1789, 0x178C), (0x178E, 0x1793),
    (0x1795, 0x1798), (0x179B, 0x179D), (0x17A0, 0x17A0), (0x17A2, 0x17A2), (0x17A7, 0x17A7),
    (0x17AB, 0x17AC), (0x17AF, 0x17AF)] c

def isTifinaghConsonant (c : Char) : Bool :=
  inRanges [(0x2D31, 0x2D65), (0x2D6F, 0x2D6F)] c

/-- The end of a sign that several letters make, the first of which is still to come. -/
inductive LetterEnd where
  /-- An Arabic alef, which joins a lam. -/
  | alef
  /-- A Hebrew lamed, which joins an alef. -/
  | lamed
  /-- A Buginese ya, which joins two vowel signs. -/
  | ya
  /-- The second of the vowel signs, a joiner and ya. -/
  | vowelYa
  /-- A Tifinagh consonant. -/
  | consonant
  /-- The sign that joins two Tifinagh consonants, and the second of them. -/
  | joinedConsonant
  /-- A Lisu tone letter of the kind that comes second. -/
  | toneLetter
  /-- The Old Turkic letter i. -/
  | orkhonI
  /-- A Khmer letter that can be written below another one. -/
  | subscript
deriving DecidableEq

/-- What stands after a character, as far as it changes the columns that the character takes. -/
inductive Shape where
  | plain
  /-- Letters, and whether a joiner stands before them. -/
  | letters (kind : LetterEnd) (joined : Bool)
  | picture
  | tone
  /-- Letters of flags, by their number. -/
  | flag (count : Nat)
  /-- A joiner before a picture. -/
  | tied
  /-- The frame of a keycap before a joiner and a picture. -/
  | tiedKeycap
  /-- Letters of flags before a joiner and a picture, by their number. -/
  | tiedFlag (count : Nat)
  /-- The end of the tag of a flag before a joiner and a picture, by the numbers of its letters and
  of the digits before them. -/
  | tiedTag (letters digits : Nat)
deriving DecidableEq

/-- What stands after a character, and the selectors between. -/
structure Follower where
  shape : Shape := .plain
  /-- Whether the selector that asks for a picture stands between. -/
  asksPicture : Bool := false
  /-- Whether the selector that asks for a text stands between. -/
  asksText : Bool := false
deriving DecidableEq

def Shape.ofChar (c : Char) : Shape :=
  if isAlef c then .letters .alef false
  else if c.toNat == 0x5DC then .letters .lamed false
  else if c.toNat == 0x1A10 then .letters .ya false
  else if isTifinaghConsonant c then .letters .consonant false
  else if c.toNat == 0xA4FC || c.toNat == 0xA4FD then .letters .toneLetter false
  else if c.toNat == 0x10C03 then .letters .orkhonI false
  else if isSubscriptLetter c then .letters .subscript false
  else if isFlagLetter c then .flag 1
  else if isTone c then .tone
  else if inRanges pictureRanges c then .picture
  else .plain

/-- What stands after a character once a selector stands between. A selector acts on letters that
still join through it and, if it asks for a picture, on pictures that the joiner ties; it hides all
else. -/
def Follower.select (next : Follower) (asksPicture : Bool) : Follower :=
  let through := match next.shape with
    | .letters .. => true
    | .tied | .tiedKeycap => asksPicture
    | _ => false
  let next := if through then next else {}
  if asksPicture then { next with asksPicture := true } else { next with asksText := true }

/-- What stands after a character that is no picture, although a picture is asked for. -/
def Follower.ignorePicture (next : Follower) : Follower :=
  match next.shape with
  | .letters .. => { next with asksPicture := false }
  | _ => {}

/-- The columns that a character adds before letters that it joins, with the shape of both. Columns
are taken back where the sign of a letter does not show beside the one before it. -/
def joinLetters? (c : Char) (kind : LetterEnd) (joined : Bool) : Option (Int × Shape) :=
  match kind with
  | .alef =>
    if isLam c then some (0, .plain)
    else if inRanges transparentRanges c then some (0, .letters .alef joined)
    else none
  | .lamed => if joined && c.toNat == 0x5D0 then some (0, .plain) else none
  | .ya => if joined && c.toNat == 0x1A17 then some (0, .letters .vowelYa false) else none
  | .vowelYa => if c.toNat == 0x1A15 then some (0, .plain) else none
  | .consonant =>
    if c.toNat == 0x2D7F then some (1, .letters .joinedConsonant false)
    else if joined && isTifinaghConsonant c then some (0, .plain)
    else none
  | .joinedConsonant => if isTifinaghConsonant c then some (-1, .plain) else none
  | .toneLetter => if 0xA4F8 ≤ c.toNat && c.toNat ≤ 0xA4FB then some (0, .plain) else none
  | .orkhonI => if joined && c.toNat == 0x10C32 then some (0, .plain) else none
  | .subscript => if c.toNat == 0x17D2 then some (-1, .plain) else none

/-- The columns that a character adds before a joiner and a picture to which it is tied. -/
def tie? (c : Char) : Option (Int × Shape) :=
  if c.toNat == 0x20E3 then some (0, .tiedKeycap)
  else if isFlagLetter c then some (1, .tiedFlag 1)
  else if isTone c then some (0, .tone)
  else if c.toNat == 0xE007F then some (0, .tiedTag 0 0)
  else if inRanges pictureRanges c then some (0, .picture)
  else none

/-- The columns that a character adds before the end of a tag. A tag has up to four letters after
three digits, or three to six letters, and follows a black flag. -/
def extendTag? (c : Char) (letters digits : Nat) : Option (Int × Shape) :=
  if 0xE0061 ≤ c.toNat && c.toNat ≤ 0xE007A && digits == 0 && letters < 6 then
    some (0, .tiedTag (letters + 1) 0)
  else if 0xE0030 ≤ c.toNat && c.toNat ≤ 0xE0039 && letters ≤ 4 && digits < 3 then
    some (0, .tiedTag letters (digits + 1))
  else if c.toNat == 0x1F3F4 && (digits == 3 || (digits == 0 && 3 ≤ letters)) then
    some (0, .picture)
  else none

/-- The columns that a character adds before a shape, with the shape of both, if the two make a
sequence. Letters of flags make pairs from the first one on, so it shows only at the next letter
whether the pair before a joiner is tied. -/
def extend? (c : Char) : Shape → Option (Int × Shape)
  | .plain | .tiedKeycap => none
  | .letters kind joined => joinLetters? c kind joined
  | .picture => if c == joiner then some (0, .tied) else none
  | .tone =>
    if c == joiner then some (0, .tied)
    else if inRanges toneBaseRanges c then some (0, .picture)
    else none
  | .flag count =>
    if isFlagLetter c then some (1, .flag (count + 1))
    else if c == joiner && 2 ≤ count then some (0, .tied)
    else none
  | .tied => tie? c
  | .tiedFlag count =>
    if isFlagLetter c then some (if count % 2 == 1 then -1 else 3, .tiedFlag (count + 1))
    else if c == joiner && 2 ≤ count then some (0, .tied)
    else none
  | .tiedTag letters digits => extendTag? c letters digits

/-- What letters are behind an invisible character that lets them join. An alef and a lam have rules
of their own. -/
def passThrough? (c : Char) : Shape → Option Shape
  | .letters .alef _ => none
  | .letters kind joined =>
    if isTransparent c then some (.letters kind (joined || c == joiner)) else none
  | _ => none

/-- The columns that a character adds to a text, by what follows it, and what then follows the
character before it. A control character takes a column within a text. -/
def widthStep (c : Char) (next : Follower) : Int × Follower :=
  if next.asksPicture && isSelectable c then
    (if next.shape == .tied || next.shape == .tiedKeycap then 0 else 2, { shape := .picture })
  else
    let next := if next.asksPicture then next.ignorePicture else next
    if c.toNat ≤ 0xA0 then (1, {})
    else if c == pictureSelector then (0, next.select true)
    else if c == textSelector then (0, next.select false)
    else if next.asksText && shrinksToText c then (1, {})
    else match passThrough? c next.shape with
      | some shape => (0, { shape })
      | none =>
        let (columns, shape) := (extend? c next.shape).getD (charWidth c, Shape.ofChar c)
        (columns, { shape })

/-- The columns that a line of text takes. -/
def width (text : List Char) : Nat :=
  (text.foldr (fun c (sum, next) =>
    let (columns, next) := widthStep c next
    (sum + columns, next)) ((0 : Int), ({} : Follower))).1.toNat

end CatalogViews.Text
