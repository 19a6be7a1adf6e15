import CatalogViews.Proofs.TypeGrammar

/-!
# Texts of types

The text of a type is written as a declaration: a name, and the arguments of the type after it. It
is a declaration of the same type for every type that a column can be declared with, but for the two
large objects. Their names are `CHARACTER LARGE OBJECT` and `BINARY LARGE OBJECT`, and a declaration
has to say `CLOB` and `BLOB`.

The numbers of a type are written in decimal, so the arguments are read as the same numbers. The
rest is a matter of the names, of which each is in uppercase and trimmed already.
-/

namespace CatalogViews

namespace Text

variable {text : List Char}

theorem upperChars_eq_self (upper : ∀ c ∈ text, uppercase c = [c]) : upperChars text = text := by
  induction text with
  | nil => rfl
  | cons c text ih =>
    rw [List.forall_mem_cons] at upper
    rw [upperChars_cons, upper.1, ih upper.2]
    rfl

theorem uppercase_of_isDigit {c : Char} (digit : c.isDigit = true) : uppercase c = [c] := by
  have digits : ∀ n < 58, 48 ≤ n → uppercase (Char.ofNat n) = [Char.ofNat n] := by decide
  obtain ⟨low, high⟩ := Char.isDigit_iff_toNat.mp digit
  have upper := digits c.toNat (Nat.lt_succ_of_le high) low
  rw [Char.ofNat_toNat] at upper
  exact upper

end Text

namespace TypeDeclaration

open Text (Blanks)

theorem argument_toDigits {gap : List Char} (blank : Blanks gap) {n : Nat}
    (small : n < UInt64.size) : Argument (gap ++ Nat.toDigits 10 n) n :=
  .written gap [] (Nat.toDigits 10 n) [] (by simp) blank nofun (.inl rfl) Nat.toDigits_ne_nil
    (fun _ member => Nat.isDigit_of_mem_toDigits (by decide) (by decide) member)
    Nat.ofDigitChars_ten_toDigits small

theorem upper_toDigits (n : Nat) : ∀ c ∈ Nat.toDigits 10 n, Text.uppercase c = [c] :=
  fun _ member => Text.uppercase_of_isDigit
    (Nat.isDigit_of_mem_toDigits (by decide) (by decide) member)

end TypeDeclaration

namespace DataType

open TypeDeclaration
open Text (Blanks)

/-- The names that stand in front of the arguments in the text of a type. -/
def listNames : List String :=
  ["NUMERIC", "DECIMAL", "FLOAT", "CHARACTER", "CHARACTER VARYING"]

theorem normal_of_listNames : ∀ name ∈ listNames, joinWords name.toList = name ∧
    Text.words name.toList ≠ [] ∧ Text.trimChars name.toList = name.toList ∧
      name.toList ≠ [] ∧ (name.toList.all fun c => Text.uppercase c == [c]) = true := by
  decide +kernel

variable {source name : String} {args : List Nat} {type : DataType}

/-- A name with arguments after it declares the type that the two stand for. -/
theorem denotes_of_listed {inner : List Char} (member : name ∈ listNames)
    (listed : Arguments inner args) (upper : ∀ c ∈ inner, Text.uppercase c = [c])
    (known : Known name args type)
    (text : source.toList = name.toList ++ '(' :: (inner ++ [')'])) : Denotes source type := by
  obtain ⟨joined, some, trim, nonempty, normal⟩ := normal_of_listNames name member
  have upperName : ∀ c ∈ name.toList, Text.uppercase c = [c] := by simpa using normal
  have nameTrimmed : Text.Trimmed name.toList := trim ▸ Text.trimmed_trimChars name.toList
  have trimmed : Text.Trimmed (name.toList ++ '(' :: (inner ++ [')'])) := by
    constructor
    · rw [List.head?_append_of_ne_nil _ nonempty]
      exact nameTrimmed.head
    · intro c last
      rw [← List.cons_append, ← List.append_assoc, List.getLast?_concat] at last
      cases last
      rfl
  have upperText : ∀ c ∈ name.toList ++ '(' :: (inner ++ [')']), Text.uppercase c = [c] := by
    simp only [List.forall_mem_append, List.forall_mem_cons]
    exact ⟨upperName, by decide, upper, by decide, nofun⟩
  refine ⟨name, args, ?_, known⟩
  rw [text, Text.trimChars_eq_self trimmed, Text.upperChars_eq_self upperText]
  have declares := Declares.listed (nameTrimmed.spaced_words some) (nofun : Blanks []) listed
  have named : String.ofList ([' '].intercalate (Text.words name.toList)) = name := joined
  rw [List.append_nil, named] at declares
  exact declares

theorem denotes_of_one {n : Nat} (member : name ∈ listNames) (small : n < UInt64.size)
    (known : Known name [n] type)
    (text : source.toList = name.toList ++ '(' :: (Nat.toDigits 10 n ++ [')'])) :
    Denotes source type :=
  denotes_of_listed member (.one (argument_toDigits (nofun : Blanks []) small)) (upper_toDigits n)
    known text

theorem denotes_of_two {n m : Nat} (member : name ∈ listNames) (small : n < UInt64.size)
    (small' : m < UInt64.size) (known : Known name [n, m] type)
    (text : source.toList = name.toList ++
      '(' :: (Nat.toDigits 10 n ++ ',' :: ([' '] ++ Nat.toDigits 10 m) ++ [')'])) :
    Denotes source type := by
  refine denotes_of_listed member (.more (argument_toDigits (nofun : Blanks []) small)
    (.one (argument_toDigits (List.forall_mem_singleton.mpr rfl) small'))) ?_ known text
  simp only [List.forall_mem_append, List.forall_mem_cons]
  exact ⟨⟨nofun, upper_toDigits n⟩, by decide, ⟨by decide, nofun⟩, upper_toDigits m⟩

theorem byte_lt (n : UInt8) : n.toNat < UInt64.size :=
  Nat.lt_trans n.toNat_lt (by decide)

theorem denotes_text_varchar (bound : UInt64) :
    Denotes (varchar (some bound)).text (varchar (some bound)) := by
  have known : Known "CHARACTER VARYING" [bound.toNat] (varchar (some bound)) :=
    .varchar bound (by decide)
  refine denotes_of_one (by decide) bound.toNat_lt known ?_
  change (s!"CHARACTER VARYING({bound.toNat})").toList = _
  simp [toString, Nat.toList_repr]

theorem denotes_text_character (length : UInt64) :
    Denotes (character length).text (character length) := by
  have known : Known "CHARACTER" [length.toNat] (character length) := .character length (by decide)
  refine denotes_of_one (by decide) length.toNat_lt known ?_
  change (s!"CHARACTER({length.toNat})").toList = _
  simp [toString, Nat.toList_repr]

theorem denotes_text_numeric (precision scale : UInt8) :
    Denotes (numeric precision scale).text (numeric precision scale) := by
  refine denotes_of_two (by decide) (byte_lt precision) (byte_lt scale)
    (.scaledNumeric precision scale) ?_
  change (s!"NUMERIC({precision.toNat}, {scale.toNat})").toList = _
  simp [toString, Nat.toList_repr]

theorem denotes_text_decimal (precision scale : UInt8) :
    Denotes (decimal precision scale).text (decimal precision scale) := by
  refine denotes_of_two (by decide) (byte_lt precision) (byte_lt scale)
    (.scaledDecimal precision scale) ?_
  change (s!"DECIMAL({precision.toNat}, {scale.toNat})").toList = _
  simp [toString, Nat.toList_repr]

theorem denotes_text_float (precision : UInt8) :
    Denotes (float precision).text (float precision) := by
  refine denotes_of_one (by decide) (byte_lt precision) (.float precision) ?_
  change (s!"FLOAT({precision.toNat})").toList = _
  simp [toString, Nat.toList_repr]

/-- The types whose text is no declaration. -/
def largeObjects : List DataType :=
  [characterLargeObject, binaryLargeObject]

theorem ofText?_text_of_largeObject : ∀ type ∈ largeObjects, ofText? type.text = none := by
  decide

theorem ofText?_text_of_plain : ∀ entry ∈ plainTypes, entry.2 ∉ largeObjects →
    ofText? entry.2.text = some entry.2 := by
  decide +kernel

theorem ofText?_text_of_known (known : Known name args type) (other : type ∉ largeObjects) :
    ofText? type.text = some type := by
  cases known with
  | plain member => exact ofText?_text_of_plain (_, _) member other
  | varchar bound => exact ofText?_eq_some_iff.mpr (denotes_text_varchar bound)
  | character length => exact ofText?_eq_some_iff.mpr (denotes_text_character length)
  | numeric precision => exact ofText?_eq_some_iff.mpr (denotes_text_numeric precision 0)
  | scaledNumeric precision scale =>
    exact ofText?_eq_some_iff.mpr (denotes_text_numeric precision scale)
  | decimal precision => exact ofText?_eq_some_iff.mpr (denotes_text_decimal precision 0)
  | scaledDecimal precision scale =>
    exact ofText?_eq_some_iff.mpr (denotes_text_decimal precision scale)
  | float precision => exact ofText?_eq_some_iff.mpr (denotes_text_float precision)

/-- Of the types that a declaration can have, the large objects are those whose text is not read as
the type, and it is not read at all. A column can be declared again with the text of its type unless
the type is one of them. -/
theorem ofText?_text_iff (read : ofText? source = some type) :
    (ofText? type.text = some type ↔ type ∉ largeObjects) ∧
    (ofText? type.text = none ↔ type ∈ largeObjects) ∧
    ∀ spec : ColumnSpec, spec.type = source →
      ({ spec with type := type.text }.column = spec.column ↔ type ∉ largeObjects) := by
  obtain ⟨name, args, -, known⟩ := ofText?_eq_some_iff.mp read
  by_cases large : type ∈ largeObjects
  · have unread := ofText?_text_of_largeObject type large
    refine ⟨by simp [unread, large], by simp [unread, large], fun spec same => ?_⟩
    rw [ColumnSpec.column, ColumnSpec.column, same, read, unread]
    refine iff_of_false (fun equal => ?_) (not_not_intro large)
    cases equal
  · have readBack := ofText?_text_of_known known large
    refine ⟨by simp [readBack, large], by simp [readBack, large], fun spec same => ?_⟩
    rw [ColumnSpec.column, ColumnSpec.column, same, read, readBack]
    exact iff_of_true rfl large

/-- Another name of the type, and another way to write its arguments. -/
theorem ofText?_text_of_short_name :
    ofText? "varchar( +010 )" = some (varchar (some 10)) ∧
      ofText? (varchar (some 10)).text = some (varchar (some 10)) := by
  have read : ofText? "varchar( +010 )" = some (varchar (some 10)) := by decide
  exact ⟨read, (ofText?_text_iff read).1.mpr (by decide)⟩

/-- A column that is declared with the short name of a large object cannot be declared with the
text of its type. -/
theorem largeObject_not_read_back :
    ofText? "CLOB" = some characterLargeObject ∧
      characterLargeObject.text = "CHARACTER LARGE OBJECT" ∧
      ofText? "CHARACTER LARGE OBJECT" = none ∧
      ({ name := "A", type := "CHARACTER LARGE OBJECT" } : ColumnSpec).column =
        .error (.unknownType "CHARACTER LARGE OBJECT") := by
  decide

end DataType

end CatalogViews
