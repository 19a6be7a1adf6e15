import CatalogViews.Text.Blank
import CatalogViews.Text.Uppercase
import Mathlib.Data.List.DropRight

/-!
# Cuts of a text

What the cuts of a text say about it. A text with blanks at its ends is these blanks around the
trimmed text; its words are what stands between gaps of blanks; a first separator and the pieces
between separators are found where no separator comes before. Each is stated through `++`, so that a
grammar can be written down without the functions that read it.

No uppercase form has a blank in it unless it is the form of a blank, so a trimmed text stays
trimmed in uppercase.
-/

namespace CatalogViews.Text

variable {text before inner after piece : List Char} {separator : Char}

/-- A text of blanks only, perhaps empty. -/
def Blanks (text : List Char) : Prop :=
  ∀ c ∈ text, isBlank c = true

/-- A text with no blank at its two ends. -/
structure Trimmed (text : List Char) : Prop where
  head : ∀ c ∈ text.head?, isBlank c = false
  last : ∀ c ∈ text.getLast?, isBlank c = false

theorem Trimmed.of_forall (clear : ∀ c ∈ text, isBlank c = false) : Trimmed text where
  head c first := clear c (List.mem_of_mem_head? first)
  last c last := clear c (List.mem_of_mem_getLast? last)

theorem dropWhile_isBlank_of_head (head : ∀ c ∈ text.head?, isBlank c = false) :
    text.dropWhile isBlank = text := by
  cases text with
  | nil => rfl
  | cons c text => simp [head c rfl]

theorem trimChars_append (blankBefore : Blanks before) (trimmed : Trimmed inner)
    (blankAfter : Blanks after) : trimChars (before ++ inner ++ after) = inner := by
  have finish : ((inner ++ after).reverse.dropWhile isBlank).reverse = inner := by
    have blank : ∀ c ∈ after.reverse, isBlank c = true :=
      fun c member => blankAfter c (List.mem_reverse.mp member)
    have last : ∀ c ∈ inner.reverse.head?, isBlank c = false := by
      rw [List.head?_reverse]
      exact trimmed.last
    rw [List.reverse_append, List.dropWhile_append_of_pos blank, dropWhile_isBlank_of_head last,
      List.reverse_reverse]
  rw [trimChars, List.append_assoc, List.dropWhile_append_of_pos blankBefore]
  cases inner with
  | nil => simp [List.dropWhile_eq_nil_iff.mpr blankAfter]
  | cons c inner =>
    have head : ∀ d ∈ (c :: inner ++ after).head?, isBlank d = false := trimmed.head
    rw [dropWhile_isBlank_of_head head, finish]

theorem trimChars_eq_self (trimmed : Trimmed text) : trimChars text = text := by
  have nothing : Blanks [] := nofun
  simpa using trimChars_append nothing trimmed nothing

theorem trimmed_trimChars (text : List Char) : Trimmed (trimChars text) := by
  have ends : trimChars text = (text.dropWhile isBlank).rdropWhile isBlank := rfl
  constructor
  · intro c first
    obtain ⟨rest, whole⟩ := List.rdropWhile_prefix isBlank (text.dropWhile isBlank)
    have stopped := List.head?_dropWhile_not isBlank text
    rw [← whole, List.head?_append, ← ends, first] at stopped
    exact stopped
  · intro c last
    rw [ends, List.rdropWhile, List.getLast?_reverse] at last
    have stopped := List.head?_dropWhile_not isBlank (text.dropWhile isBlank).reverse
    rw [last] at stopped
    exact stopped

/-- A text is its trimmed form between blanks. -/
theorem exists_append_trimChars (text : List Char) :
    ∃ before after, Blanks before ∧ Blanks after ∧ text = before ++ trimChars text ++ after := by
  refine ⟨text.takeWhile isBlank,
    ((text.dropWhile isBlank).reverse.takeWhile isBlank).reverse, ?_, ?_, ?_⟩
  · exact fun c member => List.mem_takeWhile_imp member
  · exact fun c member => List.mem_takeWhile_imp (List.mem_reverse.mp member)
  · rw [trimChars, List.append_assoc, ← List.reverse_append, List.takeWhile_append_dropWhile,
      List.reverse_reverse, List.takeWhile_append_dropWhile]

theorem Trimmed.eq_nil_of_blanks (trimmed : Trimmed (before ++ text))
    (blank : Blanks before) : before = [] := by
  cases before with
  | nil => rfl
  | cons c before =>
    have clear := trimmed.head c rfl
    rw [blank c (List.mem_cons_self ..)] at clear
    cases clear

theorem Trimmed.eq_nil_of_blanks_right (trimmed : Trimmed (text ++ after))
    (blank : Blanks after) : after = [] := by
  rcases List.eq_nil_or_concat' after with rfl | ⟨after, c, rfl⟩
  · rfl
  · have clear := trimmed.last c (by simp)
    rw [blank c (by simp)] at clear
    cases clear

/-- The code points of the blanks. -/
def blankCodes : List Nat :=
  [0x9, 0xA, 0xB, 0xC, 0xD, 0x20, 0x85, 0xA0, 0x1680] ++ List.range' 0x2000 11 ++
    [0x2028, 0x2029, 0x202F, 0x205F, 0x3000]

theorem mem_blankCodes_of_isBlank {c : Char} (blank : isBlank c = true) :
    c.toNat ∈ blankCodes := by
  simp only [isBlank, Bool.or_eq_true, Bool.and_eq_true, decide_eq_true_eq, beq_iff_eq] at blank
  simp only [blankCodes, List.mem_append, List.mem_range'_1, List.mem_cons, List.not_mem_nil,
    or_false]
  omega

theorem not_isBlank_of_isDigit {c : Char} (digit : c.isDigit = true) : isBlank c = false := by
  have apart : ∀ code ∈ blankCodes, ¬('0'.toNat ≤ code ∧ code ≤ '9'.toNat) := by decide
  by_contra blank
  rw [Bool.not_eq_false] at blank
  exact apart _ (mem_blankCodes_of_isBlank blank) (Char.isDigit_iff_toNat.mp digit)

theorem not_isBlank_toUpper : ∀ n < 128, isBlank (Char.ofNat n) = false →
    isBlank (Char.ofNat n).toUpper = false := by
  decide

theorem not_isBlank_of_expansion : ∀ form ∈ caseExpansions,
    ∀ n ∈ form.head :: form.tail, isBlank (Char.ofNat n) = false := by
  decide +kernel

theorem not_holds_of_blankCode : ∀ run ∈ caseRuns, ∀ code ∈ blankCodes,
    run.holds ((code : Int) - run.shift).toNat = false := by
  decide +kernel

/-- A number that is no code point stands for the null character, which is not a blank. -/
theorem mem_blankCodes_of_ofNat {n : Nat} (blank : isBlank (Char.ofNat n) = true) :
    n ∈ blankCodes := by
  by_cases valid : n.isValidChar
  · have code : (Char.ofNat n).toNat = n := by
      rw [Char.ofNat, dif_pos valid]
      rfl
    rw [← code]
    exact mem_blankCodes_of_isBlank blank
  · rw [Char.ofNat, dif_neg valid] at blank
    exact absurd blank (by decide)

theorem not_isBlank_uppercaseSingle {c : Char} (clear : isBlank c = false) :
    isBlank (uppercaseSingle c) = false := by
  unfold uppercaseSingle
  split
  · rename_i run found
    have held := List.find?_some found
    by_contra blank
    rw [Bool.not_eq_false] at blank
    have member := mem_blankCodes_of_ofNat blank
    have positive : ∀ code ∈ blankCodes, 0 < code := by decide
    have source : (((c.toNat + run.shift).toNat : Int) - run.shift).toNat = c.toNat := by
      have := positive _ member
      omega
    have apart := not_holds_of_blankCode run (List.mem_of_find?_eq_some found) _ member
    rw [source, held] at apart
    cases apart
  · exact clear

/-- The uppercase form of a character that is not blank has no blank in it. -/
theorem not_isBlank_of_mem_uppercase {c d : Char} (clear : isBlank c = false)
    (member : d ∈ uppercase c) : isBlank d = false := by
  unfold uppercase at member
  split at member
  · rename_i ascii
    have upper := not_isBlank_toUpper c.toNat ascii
    rw [Char.ofNat_toNat] at upper
    rw [List.mem_singleton.mp member]
    exact upper clear
  · split at member
    · rename_i form found
      rw [← List.map_cons] at member
      obtain ⟨n, listed, rfl⟩ := List.mem_map.mp member
      exact not_isBlank_of_expansion form (List.mem_of_find?_eq_some found) n listed
    · rw [List.mem_singleton.mp member]
      exact not_isBlank_uppercaseSingle clear

theorem Trimmed.upperChars (trimmed : Trimmed text) : Trimmed (upperChars text) := by
  constructor
  · intro d first
    cases text with
    | nil => cases first
    | cons c text =>
      rw [upperChars_cons, List.head?_append_of_ne_nil _ (uppercase_ne_nil c)] at first
      exact not_isBlank_of_mem_uppercase (trimmed.head c rfl) (List.mem_of_mem_head? first)
  · intro d last
    rcases List.eq_nil_or_concat' text with rfl | ⟨text, c, rfl⟩
    · cases last
    · have split : Text.upperChars (text ++ [c]) = Text.upperChars text ++ uppercase c := by
        simp [Text.upperChars]
      rw [split, List.getLast?_append_of_ne_nil _ (uppercase_ne_nil c)] at last
      exact not_isBlank_of_mem_uppercase (trimmed.last c (by simp)) (List.mem_of_mem_getLast? last)

theorem cut?_eq_none (free : separator ∉ text) : cut? separator text = none := by
  induction text with
  | nil => rfl
  | cons c text ih =>
    rw [List.mem_cons, not_or] at free
    rw [cut?, if_neg (Ne.symm free.1), ih free.2]
    rfl

theorem cut?_append (after : List Char) (free : separator ∉ before) :
    cut? separator (before ++ separator :: after) = some (before, after) := by
  induction before with
  | nil => simp [cut?]
  | cons c before ih =>
    rw [List.mem_cons, not_or] at free
    rw [List.cons_append, cut?, if_neg (Ne.symm free.1), ih free.2]
    rfl

theorem eq_append_of_cut? (cut : cut? separator text = some (before, after)) :
    text = before ++ separator :: after := by
  by_cases member : separator ∈ text
  · obtain ⟨first, rest, split, free⟩ := List.eq_append_cons_of_mem member
    rw [split, cut?_append rest free] at cut
    cases cut
    exact split
  · rw [cut?_eq_none member] at cut
    cases cut

section

variable {isSeparator : Char → Bool}

theorem pieces_of_free (free : ∀ c ∈ text, isSeparator c = false) :
    pieces isSeparator text = [text] := by
  induction text with
  | nil => rfl
  | cons c text ih =>
    rw [List.forall_mem_cons] at free
    rw [pieces, free.1, ih free.2]
    rfl

theorem pieces_append {c : Char} (free : ∀ d ∈ piece, isSeparator d = false)
    (separates : isSeparator c = true) (text : List Char) :
    pieces isSeparator (piece ++ c :: text) = piece :: pieces isSeparator text := by
  induction piece with
  | nil => rw [List.nil_append, pieces, if_pos separates]
  | cons d piece ih =>
    rw [List.forall_mem_cons] at free
    rw [List.cons_append, pieces, free.1, ih free.2]
    rfl

end

def IsWord (word : List Char) : Prop :=
  word ≠ [] ∧ ∀ c ∈ word, isBlank c = false

/-- The words stand in a text one after the other, with blanks between two of them and nothing
else. -/
inductive Spaced : List (List Char) → List Char → Prop
  | one {word : List Char} : IsWord word → Spaced [word] word
  | more {words : List (List Char)} {word gap text : List Char} :
      IsWord word → gap ≠ [] → Blanks gap → Spaced words text →
      Spaced (word :: words) (word ++ gap ++ text)

variable {words : List (List Char)} {word : List Char}

theorem words_append_of_blanks (blank : Blanks before) (text : List Char) :
    Text.words (before ++ text) = Text.words text := by
  induction before with
  | nil => rfl
  | cons c before ih =>
    rw [Blanks, List.forall_mem_cons] at blank
    have cut : pieces isBlank (c :: (before ++ text)) = [] :: pieces isBlank (before ++ text) := by
      rw [pieces, if_pos blank.1]
    rw [List.cons_append, Text.words, cut]
    exact ih blank.2

theorem words_of_blanks (blank : Blanks text) : Text.words text = [] := by
  have cut := words_append_of_blanks blank []
  rw [List.append_nil] at cut
  exact cut

/-- A word that ends at a blank or at the end of the text is the first word. -/
theorem words_append_of_isWord (isWord : IsWord word) (ends : ∀ c ∈ text.head?, isBlank c = true) :
    Text.words (word ++ text) = word :: Text.words text := by
  cases text with
  | nil => simp [Text.words, pieces_of_free isWord.2, isWord.1, pieces]
  | cons c text =>
    have blank : Blanks [c] := List.forall_mem_singleton.mpr (ends c rfl)
    have alone : Text.words (c :: text) = Text.words text := words_append_of_blanks blank text
    rw [alone, Text.words, pieces_append isWord.2 (ends c rfl), List.filter_cons_of_pos]
    · rfl
    · simp [isWord.1]

theorem Spaced.words_append (spaced : Spaced words text) (blank : Blanks after) :
    Text.words (text ++ after) = words := by
  have starts {gap : List Char} (blanks : Blanks gap) : ∀ c ∈ gap.head?, isBlank c = true :=
    fun c first => blanks c (List.mem_of_mem_head? first)
  induction spaced with
  | one isWord => rw [words_append_of_isWord isWord (starts blank), words_of_blanks blank]
  | @more words word gap text isWord someGap blanks _ ih =>
    have ends : ∀ c ∈ (gap ++ (text ++ after)).head?, isBlank c = true := by
      rw [List.head?_append_of_ne_nil _ someGap]
      exact starts blanks
    rw [List.append_assoc, List.append_assoc, words_append_of_isWord isWord ends,
      words_append_of_blanks blanks, ih]

theorem Spaced.cons {c : Char} (clear : isBlank c = false) (spaced : Spaced (word :: words) text) :
    Spaced ((c :: word) :: words) (c :: text) := by
  have longer {word : List Char} (isWord : IsWord word) : IsWord (c :: word) :=
    ⟨List.cons_ne_nil c word, List.forall_mem_cons.mpr ⟨clear, isWord.2⟩⟩
  cases spaced with
  | one isWord => exact .one (longer isWord)
  | more isWord someGap blanks rest => exact .more (longer isWord) someGap blanks rest

theorem Spaced.ne_nil (spaced : Spaced words text) : words ≠ [] := by
  cases spaced <;> exact List.cons_ne_nil _ _

/-- Between the words there are only blanks. -/
theorem Spaced.mem_intercalate (spaced : Spaced words text) {c : Char} (member : c ∈ text)
    (clear : isBlank c = false) : c ∈ [' '].intercalate words := by
  induction spaced with
  | one => simpa using member
  | @more words word gap text _ _ blanks rest ih =>
    obtain ⟨next, words, rfl⟩ := List.exists_cons_of_ne_nil rest.ne_nil
    rw [List.intercalate_cons_cons]
    simp only [List.mem_append] at member ⊢
    rcases member with (inWord | inGap) | inRest
    · exact .inl (.inl inWord)
    · rw [blanks c inGap] at clear
      cases clear
    · exact .inr (ih inRest)

/-- A text that is not blank is words in their places, between blanks. -/
theorem exists_spaced (text : List Char) : Blanks text ∨ ∃ before words inner after,
    Blanks before ∧ Spaced words inner ∧ Blanks after ∧ text = before ++ inner ++ after := by
  induction text with
  | nil => exact .inl nofun
  | cons c text ih =>
    by_cases blank : isBlank c = true
    · rcases ih with blanks | ⟨before, words, inner, after, blankBefore, spaced, blankAfter, rfl⟩
      · exact .inl (List.forall_mem_cons.mpr ⟨blank, blanks⟩)
      · exact .inr ⟨c :: before, words, inner, after,
          List.forall_mem_cons.mpr ⟨blank, blankBefore⟩, spaced, blankAfter, rfl⟩
    · rw [Bool.not_eq_true] at blank
      have isWord : IsWord [c] := ⟨List.cons_ne_nil c [], by simpa using blank⟩
      refine .inr ?_
      rcases ih with blanks | ⟨before, words, inner, after, blankBefore, spaced, blankAfter, rfl⟩
      · exact ⟨[], [[c]], [c], text, nofun, .one isWord, blanks, rfl⟩
      · cases before with
        | nil =>
          obtain ⟨word, words, rfl⟩ := List.exists_cons_of_ne_nil spaced.ne_nil
          exact ⟨[], _, c :: inner, after, nofun, spaced.cons blank, blankAfter, rfl⟩
        | cons b before =>
          refine ⟨[], [c] :: words, [c] ++ (b :: before) ++ inner, after, nofun, ?_, blankAfter, ?_⟩
          · exact .more isWord (List.cons_ne_nil b before) blankBefore spaced
          · simp

/-- The words of a text are those that stand in it between blanks. -/
theorem words_eq_iff (some : words ≠ []) : Text.words text = words ↔ ∃ before inner after,
    Blanks before ∧ Spaced words inner ∧ Blanks after ∧ text = before ++ inner ++ after := by
  constructor
  · rintro rfl
    rcases exists_spaced text with blanks | ⟨before, words, inner, after, blankBefore, spaced,
      blankAfter, split⟩
    · exact absurd (words_of_blanks blanks) some
    · refine ⟨before, inner, after, blankBefore, ?_, blankAfter, split⟩
      rw [split, List.append_assoc, words_append_of_blanks blankBefore,
        spaced.words_append blankAfter]
      exact spaced
  · rintro ⟨before, inner, after, blankBefore, spaced, blankAfter, rfl⟩
    rw [List.append_assoc, words_append_of_blanks blankBefore, spaced.words_append blankAfter]

/-- The words of a trimmed text make up the text. -/
theorem Trimmed.spaced_words (trimmed : Trimmed text) (some : Text.words text ≠ []) :
    Spaced (Text.words text) text := by
  obtain ⟨before, inner, after, blankBefore, spaced, blankAfter, split⟩ :=
    (words_eq_iff some).mp rfl
  have middle : text = inner := by
    rw [split] at trimmed
    obtain rfl := trimmed.eq_nil_of_blanks_right blankAfter
    rw [List.append_nil] at trimmed split
    obtain rfl := trimmed.eq_nil_of_blanks blankBefore
    exact split
  rw [← middle] at spaced
  exact spaced

end CatalogViews.Text
