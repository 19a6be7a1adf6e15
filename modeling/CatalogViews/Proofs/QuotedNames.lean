import CatalogViews.Proofs.PatternLanguage

/-!
# Looking for a name with a pattern

A name can be looked up exactly, and it can be looked for with a pattern in which every character of
the name that has a meaning in patterns is escaped. Such a pattern is always well formed, and its
elements are the characters of the name.

Where letter case matters both ways of looking find the same. Where it does not, the lookup folds
whole names and a pattern folds character by character: `ß` has the form `SS`, so that it is the
same identifier as `SS`, but one character of a pattern takes one character of a name. The two agree
exactly on the names whose characters have forms of the same lengths, one after the other.
-/

namespace CatalogViews

namespace Text

/-- How long the uppercase forms of the characters of a text are. -/
def formLengths (text : String) : List Nat :=
  text.toList.map fun c => (uppercase c).length

/-- Forms that are joined can be told apart again when their lengths are known. -/
theorem forall₂_uppercase_iff {s t : List Char} :
    List.Forall₂ (fun a b => uppercase a = uppercase b) s t ↔
      upperChars s = upperChars t ∧
        s.map (fun c => (uppercase c).length) = t.map fun c => (uppercase c).length := by
  constructor
  · intro h
    induction h with
    | nil => exact ⟨rfl, rfl⟩
    | cons same _ ih =>
      obtain ⟨forms, lengths⟩ := ih
      rw [upperChars_cons, upperChars_cons, List.map_cons, List.map_cons, same, forms, lengths]
      exact ⟨rfl, rfl⟩
  · intro h
    obtain ⟨forms, lengths⟩ := h
    induction s generalizing t with
    | nil =>
      have empty : t = [] := List.map_eq_nil_iff.mp lengths.symm
      rw [empty]
      exact .nil
    | cons a s ih =>
      cases t with
      | nil => cases lengths
      | cons b t =>
        rw [List.map_cons, List.map_cons, List.cons.injEq] at lengths
        have split := List.append_inj forms lengths.1
        exact .cons split.1 (ih split.2 lengths.2)

end Text

namespace LikePattern

/-- A character of a name, with the escape character in front where the character has a meaning in
patterns. -/
def quoteChar (escape c : Char) : List Char :=
  if c = '%' ∨ c = '_' ∨ c = escape then [escape, c] else [c]

/-- The pattern text of a name. -/
def quote (escape : Char) (name : String) : String :=
  String.ofList (name.toList.flatMap (quoteChar escape))

/-- The scanner reads back the characters of the name, whatever it has read before. -/
theorem scan?_quote (escape : Char) (read : List LikeToken) (name : List Char) :
    scan? escape read (name.flatMap (quoteChar escape)) =
      some (read.reverse ++ name.map .literal) := by
  induction name generalizing read with
  | nil => simp [scan?]
  | cons c name ih =>
    have next : scan? escape read ((c :: name).flatMap (quoteChar escape)) =
        scan? escape (.literal c :: read) (name.flatMap (quoteChar escape)) := by
      rw [List.flatMap_cons]
      unfold quoteChar
      split
      · simp [scan?]
      · rename_i plain
        obtain ⟨percent, underscore, other⟩ : c ≠ '%' ∧ c ≠ '_' ∧ c ≠ escape := by
          simpa only [not_or] using plain
        rw [List.singleton_append, scan?.eq_def]
        simp only [if_neg other, plainToken, if_neg percent, if_neg underscore, pushToken]
    rw [next, ih, List.reverse_cons, List.append_assoc, List.singleton_append, List.map_cons]

theorem compile?_quote (escape : Char) (ignoreCase : Bool) (name : String) :
    compile? (quote escape name) escape ignoreCase =
      some ⟨quote escape name, name.toList.map .literal, ignoreCase⟩ := by
  rw [compile?, quote, String.toList_ofList, scan?_quote]
  rfl

/-- Literals match character by character. -/
theorem matchFrom_literals_iff {ignoreCase : Bool} {name text : List Char} :
    matchFrom ignoreCase (name.map .literal) text = true ↔
      List.Forall₂ (fun a b => charMatches ignoreCase b a = true) name text := by
  induction name generalizing text with
  | nil => simp [matchFrom]
  | cons a name ih =>
    cases text with
    | nil => simp [matchFrom]
    | cons b text =>
      rw [List.map_cons, matchFrom, Bool.and_eq_true, ih, List.forall₂_cons]

theorem forall₂_charMatches_iff {mode : CaseMode} {name text : String} :
    List.Forall₂ (fun a b => charMatches (mode == .insensitive) b a = true) name.toList
        text.toList ↔
      mode.same name text = true ∧
        (mode = .insensitive → Text.formLengths name = Text.formLengths text) := by
  cases mode with
  | sensitive =>
    have exactly (a b : Char) : charMatches (CaseMode.sensitive == .insensitive) b a = true ↔
        a = b := by
      rw [charMatches_iff]
      constructor
      · intro agree
        rcases agree with same | ⟨ignored, -⟩
        · exact same.symm
        · cases ignored
      · intro same
        exact .inl same.symm
    simp only [exactly, CaseMode.same_iff, CaseMode.key]
    rw [List.forall₂_eq_eq_eq, String.toList_inj]
    simp
  | insensitive =>
    have folded (a b : Char) : charMatches (CaseMode.insensitive == .insensitive) b a = true ↔
        Text.uppercase a = Text.uppercase b := by
      rw [charMatches_iff]
      constructor
      · intro agree
        rcases agree with same | agree
        · rw [same]
        · exact agree.2.symm
      · intro same
        exact .inr ⟨rfl, same.symm⟩
    have upper : CaseMode.insensitive.same name text = true ↔
        Text.upperChars name.toList = Text.upperChars text.toList := by
      rw [CaseMode.same_iff, ← String.toList_inj]
      simp only [CaseMode.key, Text.toList_upper]
    simp only [folded, Text.forall₂_uppercase_iff, upper, Text.formLengths, forall_true_left]

/-- The pattern text of a name compiles, and as a pattern argument it matches the texts that are the
same identifier as the name and, where letter case does not matter, have forms of the same
lengths. -/
theorem quote_matches (m : Metadata) (name : String) :
    ∃ pattern,
      compile? (quote m.settings.searchEscape name) m.settings.searchEscape
        (m.catalog.caseMode == .insensitive) = some pattern ∧
      m.like? (some (quote m.settings.searchEscape name)) = .ok (some pattern) ∧
      ∀ text, pattern.isMatch text = true ↔
        m.catalog.sameIdentifier name text = true ∧
          (m.catalog.caseMode = .insensitive →
            Text.formLengths name = Text.formLengths text) := by
  have compiled := compile?_quote m.settings.searchEscape (m.catalog.caseMode == .insensitive) name
  refine ⟨_, compiled, ?_, ?_⟩
  · simp only [Metadata.like?, compiled]
  · intro text
    rw [isMatch, matchFrom_literals_iff, forall₂_charMatches_iff]
    rfl

/-- The lookup finds the name, and the pattern for the name does not. -/
theorem quote_misses_expanded_form :
    let m : Metadata := .ofCatalog (Catalog.named "C") {} {}
    m.catalog.sameIdentifier "ß" "SS" = true ∧
      ∃ pattern, compile? (quote '\\' "ß") '\\' (m.catalog.caseMode == .insensitive) =
          some pattern ∧
        m.like? (some (quote '\\' "ß")) = .ok (some pattern) ∧ pattern.isMatch "SS" = false := by
  intro m
  refine ⟨by decide +kernel, ⟨"ß", [.literal 'ß'], true⟩, ?_, ?_, ?_⟩
  · decide +kernel
  · rfl
  · decide +kernel

end LikePattern

end CatalogViews
