import CatalogViews.Metadata.Basic
import Mathlib.Data.List.Forall2

/-!
# The language of a pattern

What a pattern text says, written down without compiling it. `Reads` gives the elements of the text
and `Dangles` the texts that end on an escape character which escapes nothing; both only look at the
text from left to right. A name belongs to a list of elements when it can be cut into one piece for
each of them (`Cuts`).

A compiled pattern has fewer tokens than its text has elements, since neighbouring sequences are
made one while the text is read, and a name is decided by a search that does not try all cuts.
Neither changes the language.
-/

namespace CatalogViews.LikePattern

/-- The elements of a pattern text. The escape character is looked for first, so it is never a
wildcard, even when it is `%` or `_`. -/
inductive Reads (escape : Char) : List Char → List LikeToken → Prop
  | nil : Reads escape [] []
  | escaped {text : List Char} {elements : List LikeToken} (c : Char) :
      Reads escape text elements → Reads escape (escape :: c :: text) (.literal c :: elements)
  | sequence {text : List Char} {elements : List LikeToken} :
      '%' ≠ escape → Reads escape text elements →
      Reads escape ('%' :: text) (.anySequence :: elements)
  | single {text : List Char} {elements : List LikeToken} :
      '_' ≠ escape → Reads escape text elements →
      Reads escape ('_' :: text) (.anyChar :: elements)
  | plain {text : List Char} {elements : List LikeToken} {c : Char} :
      c ≠ escape → c ≠ '%' → c ≠ '_' → Reads escape text elements →
      Reads escape (c :: text) (.literal c :: elements)

/-- The texts that end on an escape character with nothing after it, where an escape character is
taken together with the character that it escapes. -/
inductive Dangles (escape : Char) : List Char → Prop
  | last : Dangles escape [escape]
  | escaped {text : List Char} (c : Char) :
      Dangles escape text → Dangles escape (escape :: c :: text)
  | plain {text : List Char} {c : Char} :
      c ≠ escape → Dangles escape text → Dangles escape (c :: text)

/-- The pieces of a name that an element takes. -/
def Takes (ignoreCase : Bool) : LikeToken → List Char → Prop
  | .anySequence, _ => True
  | .anyChar, piece => ∃ c, piece = [c]
  | .literal expected, piece => ∃ c, piece = [c] ∧
      (c = expected ∨ ignoreCase = true ∧ Text.uppercase c = Text.uppercase expected)

/-- A name can be cut into consecutive pieces, one for each element. -/
def Cuts (ignoreCase : Bool) (elements : List LikeToken) (name : List Char) : Prop :=
  ∃ pieces : List (List Char),
    pieces.flatten = name ∧ List.Forall₂ (Takes ignoreCase) elements pieces

theorem reads_plainToken {escape c : Char} {text : List Char} {elements : List LikeToken}
    (plain : c ≠ escape) (h : Reads escape text elements) :
    Reads escape (c :: text) (plainToken c :: elements) := by
  unfold plainToken
  split
  · rename_i percent
    subst percent
    exact .sequence plain h
  · split
    · rename_i underscore
      subst underscore
      exact .single plain h
    · exact .plain plain ‹_› ‹_› h

/-- An unescaped character in front of a text is one element. -/
theorem reads_cons_iff {escape c : Char} {text : List Char} {elements : List LikeToken}
    (plain : c ≠ escape) :
    Reads escape (c :: text) elements ↔
      ∃ later, elements = plainToken c :: later ∧ Reads escape text later := by
  constructor
  · intro h
    cases h with
    | escaped d _ => exact absurd rfl plain
    | sequence _ h => exact ⟨_, rfl, h⟩
    | single _ h => exact ⟨_, rfl, h⟩
    | plain _ percent underscore h =>
      refine ⟨_, ?_, h⟩
      rw [plainToken, if_neg percent, if_neg underscore]
  · rintro ⟨later, rfl, h⟩
    exact reads_plainToken plain h

/-- A text has at most one list of elements. -/
theorem Reads.unique {escape : Char} {text : List Char} {elements others : List LikeToken}
    (h : Reads escape text elements) (h' : Reads escape text others) : others = elements := by
  induction h generalizing others with
  | nil =>
    cases h'
    rfl
  | escaped c _ ih =>
    cases h' with
    | escaped _ h' => rw [ih h']
    | sequence plain _ => exact absurd rfl plain
    | single plain _ => exact absurd rfl plain
    | plain plain _ _ _ => exact absurd rfl plain
  | sequence plain _ ih =>
    obtain ⟨later, rfl, reads⟩ := (reads_cons_iff plain).mp h'
    rw [ih reads]
    rfl
  | single plain _ ih =>
    obtain ⟨later, rfl, reads⟩ := (reads_cons_iff plain).mp h'
    rw [ih reads]
    rfl
  | plain plain percent underscore _ ih =>
    obtain ⟨later, rfl, reads⟩ := (reads_cons_iff plain).mp h'
    rw [ih reads, plainToken, if_neg percent, if_neg underscore]

/-- The scanner fails exactly on the texts that end on a bare escape character. -/
theorem scan?_eq_none_iff {escape : Char} {read : List LikeToken} {text : List Char} :
    scan? escape read text = none ↔ Dangles escape text := by
  constructor
  · intro h
    fun_induction scan? escape read text with
    | case1 => cases h
    | case2 => exact .last
    | case3 read d rest ih => exact .escaped d (ih h)
    | case4 read c text plain ih => exact .plain plain (ih h)
  · intro h
    induction h generalizing read with
    | last => simp [scan?]
    | escaped c _ ih =>
      rw [scan?, if_pos rfl]
      exact ih
    | plain plain _ ih =>
      rw [scan?.eq_def]
      simp only [if_neg plain]
      exact ih

theorem cuts_nil {ignoreCase : Bool} {name : List Char} :
    Cuts ignoreCase [] name ↔ name = [] := by
  constructor
  · rintro ⟨pieces, rfl, taken⟩
    rw [List.forall₂_nil_left_iff.mp taken]
    rfl
  · rintro rfl
    exact ⟨[], rfl, .nil⟩

theorem cuts_cons {ignoreCase : Bool} {element : LikeToken} {elements : List LikeToken}
    {name : List Char} :
    Cuts ignoreCase (element :: elements) name ↔
      ∃ piece rest, name = piece ++ rest ∧ Takes ignoreCase element piece ∧
        Cuts ignoreCase elements rest := by
  constructor
  · rintro ⟨pieces, rfl, taken⟩
    obtain ⟨piece, pieces, htake, htail, rfl⟩ := List.forall₂_cons_left_iff.mp taken
    exact ⟨piece, pieces.flatten, rfl, htake, pieces, rfl, htail⟩
  · rintro ⟨piece, rest, rfl, htake, pieces, rfl, htail⟩
    exact ⟨piece :: pieces, rfl, .cons htake htail⟩

/-- Two sequences in a row take what one takes. -/
theorem cuts_sequence_sequence {ignoreCase : Bool} {elements : List LikeToken} {name : List Char} :
    Cuts ignoreCase (.anySequence :: .anySequence :: elements) name ↔
      Cuts ignoreCase (.anySequence :: elements) name := by
  constructor
  · intro h
    obtain ⟨front, rest, rfl, -, h⟩ := cuts_cons.mp h
    obtain ⟨middle, rest, rfl, -, h⟩ := cuts_cons.mp h
    exact cuts_cons.mpr ⟨front ++ middle, rest, by simp, trivial, h⟩
  · intro h
    exact cuts_cons.mpr ⟨[], name, rfl, trivial, h⟩

/-- Lists of elements of one language may stand for each other after others. -/
theorem cuts_append_congr {ignoreCase : Bool} (front : List LikeToken) {back other : List LikeToken}
    (same : ∀ name, Cuts ignoreCase back name ↔ Cuts ignoreCase other name) {name : List Char} :
    Cuts ignoreCase (front ++ back) name ↔ Cuts ignoreCase (front ++ other) name := by
  induction front generalizing name with
  | nil => exact same name
  | cons element front ih =>
    rw [List.cons_append, List.cons_append, cuts_cons, cuts_cons]
    simp only [ih]

theorem cuts_pushToken {ignoreCase : Bool} (token : LikeToken) (read elements : List LikeToken)
    {name : List Char} :
    Cuts ignoreCase ((pushToken token read).reverse ++ elements) name ↔
      Cuts ignoreCase (read.reverse ++ token :: elements) name := by
  unfold pushToken
  split
  · rename_i read
    simp only [List.reverse_cons, List.append_assoc, List.singleton_append]
    exact cuts_append_congr read.reverse fun name => cuts_sequence_sequence.symm
  · rw [List.reverse_cons, List.append_assoc, List.singleton_append]

/-- The tokens of a text have the language of those read before it followed by the elements of the
text. While the text is read, its elements go over to the tokens one by one. -/
theorem cuts_of_scan? {escape : Char} {read tokens : List LikeToken} {text : List Char}
    (h : scan? escape read text = some tokens) (ignoreCase : Bool) :
    ∃ elements, Reads escape text elements ∧
      ∀ name, Cuts ignoreCase tokens name ↔ Cuts ignoreCase (read.reverse ++ elements) name := by
  fun_induction scan? escape read text with
  | case1 read =>
    cases h
    refine ⟨[], .nil, fun name => ?_⟩
    rw [List.append_nil]
  | case2 => cases h
  | case3 read d rest ih =>
    obtain ⟨elements, reads, same⟩ := ih h
    refine ⟨.literal d :: elements, .escaped d reads, fun name => ?_⟩
    rw [same, List.reverse_cons, List.append_assoc, List.singleton_append]
  | case4 read c text plain ih =>
    obtain ⟨elements, reads, same⟩ := ih h
    refine ⟨plainToken c :: elements, reads_plainToken plain reads, fun name => ?_⟩
    rw [same, cuts_pushToken]

theorem anySuffix_iff {test : List Char → Bool} {text : List Char} :
    anySuffix test text = true ↔ ∃ front rest, text = front ++ rest ∧ test rest = true := by
  induction text with
  | nil =>
    rw [anySuffix]
    constructor
    · intro passes
      exact ⟨[], [], rfl, passes⟩
    · rintro ⟨front, rest, split, passes⟩
      obtain ⟨-, rfl⟩ := List.append_eq_nil_iff.mp split.symm
      exact passes
  | cons c text ih =>
    rw [anySuffix, Bool.or_eq_true, ih]
    constructor
    · rintro (passes | ⟨front, rest, rfl, passes⟩)
      · exact ⟨[], c :: text, rfl, passes⟩
      · exact ⟨c :: front, rest, rfl, passes⟩
    · rintro ⟨front, rest, split, passes⟩
      cases front with
      | nil =>
        rw [List.nil_append] at split
        exact .inl (split ▸ passes)
      | cons d front =>
        rw [List.cons_append, List.cons.injEq] at split
        exact .inr ⟨front, rest, split.2, passes⟩

theorem charMatches_iff {ignoreCase : Bool} {c expected : Char} :
    charMatches ignoreCase c expected = true ↔
      c = expected ∨ ignoreCase = true ∧ Text.uppercase c = Text.uppercase expected := by
  simp [charMatches]

/-- An element that takes one character takes none of the empty name. -/
theorem not_cuts_nil {ignoreCase : Bool} {element : LikeToken} {elements : List LikeToken}
    (single : element ≠ .anySequence) : ¬Cuts ignoreCase (element :: elements) [] := by
  intro h
  obtain ⟨piece, rest, split, taken, -⟩ := cuts_cons.mp h
  obtain ⟨rfl, -⟩ := List.append_eq_nil_iff.mp split.symm
  cases element with
  | anySequence => exact single rfl
  | anyChar =>
    obtain ⟨c, empty⟩ := taken
    cases empty
  | literal expected =>
    obtain ⟨c, empty, -⟩ := taken
    cases empty

/-- The search decides the language of the tokens: it goes on with a suffix of the name exactly when
the tokens before can take what stands in front of it. -/
theorem matchFrom_iff_cuts {ignoreCase : Bool} {tokens : List LikeToken} {name : List Char} :
    matchFrom ignoreCase tokens name = true ↔ Cuts ignoreCase tokens name := by
  induction tokens generalizing name with
  | nil => rw [matchFrom, List.isEmpty_iff, cuts_nil]
  | cons token tokens ih =>
    cases token with
    | anySequence =>
      cases tokens with
      | nil =>
        refine iff_of_true rfl (cuts_cons.mpr ⟨name, [], ?_, trivial, cuts_nil.mpr rfl⟩)
        rw [List.append_nil]
      | cons next tokens =>
        change anySuffix (matchFrom ignoreCase (next :: tokens)) name = true ↔ _
        rw [anySuffix_iff, cuts_cons]
        simp only [ih, Takes, true_and]
    | anyChar =>
      cases name with
      | nil => exact iff_of_false Bool.false_ne_true (not_cuts_nil (by decide))
      | cons c name =>
        rw [matchFrom, ih, cuts_cons]
        constructor
        · intro later
          exact ⟨[c], name, rfl, ⟨c, rfl⟩, later⟩
        · rintro ⟨piece, rest, split, ⟨d, rfl⟩, later⟩
          cases split
          exact later
    | literal expected =>
      cases name with
      | nil => exact iff_of_false Bool.false_ne_true (not_cuts_nil LikeToken.noConfusion)
      | cons c name =>
        rw [matchFrom, Bool.and_eq_true, charMatches_iff, ih, cuts_cons]
        constructor
        · rintro ⟨agrees, later⟩
          exact ⟨[c], name, rfl, ⟨c, rfl, agrees⟩, later⟩
        · rintro ⟨piece, rest, split, ⟨d, rfl, agrees⟩, later⟩
          cases split
          exact ⟨agrees, later⟩

theorem compile?_eq_none_iff {source : String} {escape : Char} {ignoreCase : Bool} :
    compile? source escape ignoreCase = none ↔ Dangles escape source.toList := by
  rw [compile?, Option.map_eq_none_iff, scan?_eq_none_iff]

/-- A compiled pattern has the language of its text, whose elements are determined. -/
theorem reads_of_compile? {source : String} {escape : Char} {ignoreCase : Bool}
    {pattern : LikePattern} (h : compile? source escape ignoreCase = some pattern) :
    ∃ elements, (∀ others, Reads escape source.toList others ↔ others = elements) ∧
      ∀ name, pattern.isMatch name = true ↔ Cuts ignoreCase elements name.toList := by
  obtain ⟨tokens, scanned, rfl⟩ := Option.map_eq_some_iff.mp h
  obtain ⟨elements, reads, same⟩ := cuts_of_scan? scanned ignoreCase
  refine ⟨elements, fun others => ?_, fun name => ?_⟩
  · constructor
    · exact reads.unique
    · rintro rfl
      exact reads
  · rw [isMatch, matchFrom_iff_cuts, same, List.reverse_nil, List.nil_append]

/-- A pattern argument is refused exactly when its compilation fails, and the refusal names it. -/
theorem like?_eq_error_iff {m : Metadata} {source : String} {error : ViewError} :
    m.like? (some source) = .error error ↔
      error = .invalidPattern source ∧ Dangles m.settings.searchEscape source.toList := by
  have refused : compile? source m.settings.searchEscape (m.catalog.caseMode == .insensitive) =
      none ↔ Dangles m.settings.searchEscape source.toList := compile?_eq_none_iff
  rw [← refused]
  simp only [Metadata.like?]
  split
  · rename_i compiled
    simp [compiled]
  · rename_i failed
    simp [failed, eq_comm]

/-- Compilation fails, with an error that carries the text, exactly when the text ends on a bare
escape character. Otherwise the text has its elements, and a name matches exactly when it can be cut
into one piece for each of them. -/
theorem compile?_language (source : String) (escape : Char) (ignoreCase : Bool) :
    (compile? source escape ignoreCase = none ↔ Dangles escape source.toList) ∧
    (∀ m : Metadata, m.settings.searchEscape = escape → ∀ error,
      (m.like? (some source) = .error error ↔
        error = .invalidPattern source ∧ Dangles escape source.toList)) ∧
    ∀ pattern, compile? source escape ignoreCase = some pattern →
      ∃ elements, (∀ others, Reads escape source.toList others ↔ others = elements) ∧
        ∀ name, pattern.isMatch name = true ↔ Cuts ignoreCase elements name.toList := by
  refine ⟨compile?_eq_none_iff, ?_, fun pattern => reads_of_compile?⟩
  rintro m rfl error
  exact like?_eq_error_iff

end CatalogViews.LikePattern
