import CatalogViews.Fixture.Script
import CatalogViews.Proofs.TextCuts

/-!
# The grammar of types

A column has a declared type exactly when the text of the declaration is one of the known names, its
words apart by blanks, with as many arguments in parentheses as the name may have
(`DataType.Denotes`). The arguments are decimal numbers, and the type carries the numbers
themselves: an argument that does not fit denotes nothing. Every other text is reported as it was
written.

`TypeDeclaration.Declares` is the form of a declaration, said without a cut: the list of arguments
runs from the first parenthesis to the end, since no known name has a parenthesis in it.
`TypeDeclaration.Known` says which names and arguments stand for which type.
-/

namespace CatalogViews

namespace Number

variable {text : List Char} {n : Nat}

theorem natOfDigits?_eq_some_iff :
    natOfDigits? text = some n ↔
      text ≠ [] ∧ (∀ c ∈ text, c.isDigit = true) ∧ Nat.ofDigitChars 10 text 0 = n := by
  have value : text.foldl (fun n c => 10 * n + (c.toNat - '0'.toNat)) 0 =
      Nat.ofDigitChars 10 text 0 := rfl
  have malformed : (text.isEmpty || text.any (!·.isDigit)) = true ↔
      ¬(text ≠ [] ∧ ∀ c ∈ text, c.isDigit = true) := by
    simp [imp_iff_not_or, not_or]
  rw [natOfDigits?, value, ← and_assoc]
  by_cases wellFormed : text ≠ [] ∧ ∀ c ∈ text, c.isDigit = true
  · rw [if_neg (mt malformed.mp (not_not_intro wellFormed)), Option.some.injEq]
    exact (and_iff_right wellFormed).symm
  · rw [if_pos (malformed.mpr wellFormed)]
    exact ⟨nofun, fun parts => absurd parts.1 wellFormed⟩

theorem ofNat_fits_iff {arg : UInt64} :
    (if n < UInt64.size then some (UInt64.ofNat n) else none) = some arg ↔ n = arg.toNat := by
  split
  · rename_i small
    rw [Option.some.injEq, ← UInt64.toNat_inj, UInt64.toNat_ofNat_of_lt' small]
  · rename_i large
    constructor
    · nofun
    · rintro rfl
      exact absurd arg.toNat_lt large

theorem word64?_eq_some_iff {arg : UInt64} :
    word64? text = some arg ↔ ∃ sign digits, text = sign ++ digits ∧
      (sign = [] ∨ sign = ['+']) ∧ natOfDigits? digits = some arg.toNat := by
  simp only [word64?, Option.bind_eq_bind, Option.bind_eq_some_iff, ofNat_fits_iff,
    exists_eq_right]
  split
  · rename_i rest
    constructor
    · intro read
      exact ⟨['+'], rest, rfl, .inr rfl, read⟩
    · rintro ⟨sign, digits, split, rfl | rfl, read⟩
      · have decimal := (natOfDigits?_eq_some_iff.mp read).2.1
        rw [List.nil_append] at split
        rw [← split, List.forall_mem_cons] at decimal
        cases decimal.1
      · cases split
        exact read
  · rename_i other
    constructor
    · intro read
      exact ⟨[], text, rfl, .inl rfl, read⟩
    · rintro ⟨sign, digits, split, rfl | rfl, read⟩
      · rw [split]
        exact read
      · exact absurd split (other digits)

end Number

namespace TypeDeclaration

open Text (Blanks Spaced)

/-- A decimal number below `2 ^ 64` between blanks, perhaps with a plus sign in front. -/
inductive Argument (piece : List Char) (n : Nat) : Prop
  | written (before sign digits after : List Char)
      (split : piece = before ++ (sign ++ digits) ++ after)
      (blankBefore : Blanks before) (blankAfter : Blanks after)
      (signed : sign = [] ∨ sign = ['+'])
      (someDigits : digits ≠ []) (decimal : ∀ c ∈ digits, c.isDigit = true)
      (value : Nat.ofDigitChars 10 digits 0 = n) (small : n < UInt64.size)

/-- Arguments with one comma between two of them. -/
inductive Arguments : List Char → List Nat → Prop
  | one {piece : List Char} {n : Nat} : Argument piece n → Arguments piece [n]
  | more {piece text : List Char} {n : Nat} {args : List Nat} :
      Argument piece n → Arguments text args → Arguments (piece ++ ',' :: text) (n :: args)

variable {text piece : List Char} {name : String} {args : List Nat} {n : Nat}

theorem argument_iff :
    Argument piece n ↔
      ∃ arg, Number.word64? (Text.trimChars piece) = some arg ∧ arg.toNat = n := by
  constructor
  · rintro ⟨before, sign, digits, after, split, blankBefore, blankAfter, signed, someDigits,
      decimal, value, small⟩
    have clear : ∀ c ∈ sign ++ digits, Text.isBlank c = false := by
      intro c member
      rcases List.mem_append.mp member with inSign | inDigits
      · rcases signed with rfl | rfl
        · cases inSign
        · rw [List.mem_singleton.mp inSign]
          rfl
      · exact Text.not_isBlank_of_isDigit (decimal c inDigits)
    refine ⟨UInt64.ofNat n, ?_, UInt64.toNat_ofNat_of_lt' small⟩
    rw [split, Text.trimChars_append blankBefore (.of_forall clear) blankAfter,
      Number.word64?_eq_some_iff]
    refine ⟨sign, digits, rfl, signed, ?_⟩
    rw [UInt64.toNat_ofNat_of_lt' small, Number.natOfDigits?_eq_some_iff]
    exact ⟨someDigits, decimal, value⟩
  · rintro ⟨arg, read, rfl⟩
    obtain ⟨before, after, blankBefore, blankAfter, split⟩ := Text.exists_append_trimChars piece
    obtain ⟨sign, digits, written, signed, read⟩ := Number.word64?_eq_some_iff.mp read
    obtain ⟨someDigits, decimal, value⟩ := Number.natOfDigits?_eq_some_iff.mp read
    rw [written] at split
    exact ⟨before, sign, digits, after, split, blankBefore, blankAfter, signed, someDigits,
      decimal, value, arg.toNat_lt⟩

theorem Argument.comma_not_mem (argument : Argument piece n) : ',' ∉ piece := by
  obtain ⟨before, sign, digits, after, split, blankBefore, blankAfter, signed, -, decimal, -, -⟩ :=
    argument
  have noBlank {gap : List Char} (blank : Blanks gap) : ',' ∉ gap :=
    fun member => absurd (blank _ member) (by decide)
  have noSign : ',' ∉ sign := by
    rcases signed with rfl | rfl <;> decide
  have noDigit : ',' ∉ digits := fun member => absurd (decimal _ member) (by decide)
  rw [split]
  simp [noBlank blankBefore, noBlank blankAfter, noSign, noDigit]

/-- The arguments that a text is read as. -/
theorem arguments_iff : Arguments text args ↔ ∃ words : List UInt64,
    ((Text.pieces (· == ',') text).mapM fun piece => Number.word64? (Text.trimChars piece)) =
      some words ∧ words.map UInt64.toNat = args := by
  have free {piece : List Char} (noComma : ',' ∉ piece) : ∀ c ∈ piece, (c == ',') = false :=
    fun c member => beq_eq_false_iff_ne.mpr (ne_of_mem_of_not_mem member noComma)
  constructor
  · intro listed
    induction listed with
    | one argument =>
      obtain ⟨arg, read, rfl⟩ := argument_iff.mp argument
      rw [Text.pieces_of_free (free argument.comma_not_mem)]
      exact ⟨[arg], by simp [read], rfl⟩
    | @more piece text n args argument _ ih =>
      obtain ⟨arg, read, rfl⟩ := argument_iff.mp argument
      obtain ⟨words, reads, rfl⟩ := ih
      rw [Text.pieces_append (free argument.comma_not_mem) rfl]
      exact ⟨arg :: words, by simp [read, reads], rfl⟩
  · rintro ⟨words, reads, rfl⟩
    induction measured : text.length using Nat.strong_induction_on generalizing text words with
    | _ length ih =>
      by_cases comma : ',' ∈ text
      · obtain ⟨piece, rest, split, noComma⟩ := List.eq_append_cons_of_mem comma
        rw [split, Text.pieces_append (free noComma) rfl] at reads
        simp only [List.mapM_cons, Option.pure_def, Option.bind_eq_bind, Option.bind_eq_some_iff,
          Option.some.injEq] at reads
        obtain ⟨arg, read, words, reads, rfl⟩ := reads
        have shorter : rest.length < length := by
          rw [← measured, split, List.length_append, List.length_cons]
          omega
        rw [split, List.map_cons]
        exact .more (argument_iff.mpr ⟨arg, read, rfl⟩) (ih _ shorter words reads rfl)
      · rw [Text.pieces_of_free (free comma)] at reads
        simp only [List.mapM_cons, List.mapM_nil, Option.pure_def, Option.bind_eq_bind,
          Option.bind_eq_some_iff, Option.some.injEq] at reads
        obtain ⟨arg, read, -, rfl, rfl⟩ := reads
        exact .one (argument_iff.mpr ⟨arg, read, rfl⟩)

theorem readArgs?_iff :
    (∃ words, readArgs? text = some words ∧ words.map UInt64.toNat = args) ↔
      ∃ inner, text = inner ++ [')'] ∧ Arguments inner args := by
  rw [readArgs?]
  split
  · rename_i inner ends
    have closed : text = inner.reverse ++ [')'] := by
      rw [← List.reverse_cons, ← ends, List.reverse_reverse]
    rw [closed, ← arguments_iff]
    constructor
    · intro listed
      exact ⟨inner.reverse, rfl, listed⟩
    · rintro ⟨inner', same, listed⟩
      rw [List.append_cancel_right same]
      exact listed
  · rename_i opened
    constructor
    · rintro ⟨words, read, -⟩
      cases read
    · rintro ⟨inner, rfl, -⟩
      exact absurd (by simp) (opened inner.reverse)

/-- A name whose words are apart by blanks, perhaps with arguments in parentheses up to the end. -/
inductive Declares : List Char → String → List Nat → Prop
  | bare {words : List (List Char)} {text : List Char} : Spaced words text →
      Declares text (String.ofList ([' '].intercalate words)) []
  | listed {words : List (List Char)} {spelled gap inner : List Char} {args : List Nat} :
      Spaced words spelled → Blanks gap → Arguments inner args →
      Declares (spelled ++ gap ++ '(' :: (inner ++ [')']))
        (String.ofList ([' '].intercalate words)) args

variable {source : String}

theorem joinWords_of_spaced {words : List (List Char)} {gap : List Char}
    (spaced : Spaced words text) (blank : Blanks gap) :
    joinWords (text ++ gap) = String.ofList ([' '].intercalate words) := by
  rw [joinWords, spaced.words_append blank]

theorem words_ne_nil_of_joinWords (named : joinWords text ≠ "") : Text.words text ≠ [] := by
  intro none
  rw [joinWords, none] at named
  exact named rfl

/-- What declares a name without a parenthesis is read as this name. -/
theorem Declares.exists_read? (declares : Declares text name args)
    (normal : Text.upperChars (Text.trimChars source.toList) = text) (plain : '(' ∉ name.toList) :
    ∃ words, read? source = some ⟨name, words⟩ ∧ words.map UInt64.toNat = args := by
  have free {words : List (List Char)} {spelled : List Char} (spaced : Spaced words spelled)
      (plain : '(' ∉ (String.ofList ([' '].intercalate words)).toList) : '(' ∉ spelled := by
    rw [String.toList_ofList] at plain
    exact fun member => plain (spaced.mem_intercalate member rfl)
  rw [read?, normal]
  cases declares with
  | bare spaced =>
    rw [Text.cut?_eq_none (free spaced plain)]
    have joined := joinWords_of_spaced spaced (nofun : Blanks [])
    rw [List.append_nil] at joined
    exact ⟨[], by rw [joined], rfl⟩
  | @listed words spelled gap inner args spaced blank listed =>
    have noParenthesis : '(' ∉ spelled ++ gap := by
      rw [List.mem_append, not_or]
      exact ⟨free spaced plain, fun member => absurd (blank _ member) (by decide)⟩
    obtain ⟨words', read, same⟩ := readArgs?_iff.mpr ⟨inner, rfl, listed⟩
    rw [Text.cut?_append _ noParenthesis]
    refine ⟨words', ?_, same⟩
    simp only [read, Option.map_some, joinWords_of_spaced spaced blank]

/-- What is read as a name declares the name. -/
theorem declares_of_read? {words : List UInt64} (read : read? source = some ⟨name, words⟩)
    (named : name ≠ "") :
    Declares (Text.upperChars (Text.trimChars source.toList)) name
      (words.map UInt64.toNat) := by
  have trimmed := (Text.trimmed_trimChars source.toList).upperChars
  rw [read?] at read
  generalize Text.upperChars (Text.trimChars source.toList) = text at read trimmed ⊢
  split at read
  · simp only [Option.some.injEq, mk.injEq] at read
    obtain ⟨rfl, rfl⟩ := read
    exact .bare (trimmed.spaced_words (words_ne_nil_of_joinWords named))
  · rename_i spelled rest cut
    simp only [Option.map_eq_some_iff, mk.injEq] at read
    obtain ⟨args, read, rfl, rfl⟩ := read
    obtain ⟨inner, rfl, listed⟩ := readArgs?_iff.mp ⟨args, read, rfl⟩
    obtain ⟨before, name, gap, blankBefore, spaced, blankAfter, split⟩ :=
      (Text.words_eq_iff (words_ne_nil_of_joinWords named)).mp rfl
    rw [joinWords]
    generalize Text.words spelled = words at spaced ⊢
    rw [Text.eq_append_of_cut? cut, split] at trimmed ⊢
    simp only [List.append_assoc] at trimmed
    obtain rfl := trimmed.eq_nil_of_blanks blankBefore
    exact .listed spaced blankAfter listed

/-- The types that have a name of their own, without arguments. An exact number has 38 digits, none
of them after the point, a floating-point number has 53 binary digits, and a character string that
does not vary has one character. -/
def plainTypes : List (String × DataType) :=
  [("INTEGER", .integer), ("INT", .integer), ("SMALLINT", .smallint), ("BIGINT", .bigint),
    ("BIGINT UNSIGNED", .unsigned), ("BOOLEAN", .boolean), ("VARCHAR", .varchar none),
    ("CHARACTER VARYING", .varchar none), ("CHAR", .character 1), ("CHARACTER", .character 1),
    ("NUMERIC", .numeric 38 0), ("DECIMAL", .decimal 38 0), ("FLOAT", .float 53), ("REAL", .real),
    ("DOUBLE PRECISION", .doublePrecision), ("DOUBLE", .doublePrecision), ("DATE", .date),
    ("TIME", .time false), ("TIME WITH TIME ZONE", .time true), ("TIMESTAMP", .timestamp false),
    ("TIMESTAMP WITH TIME ZONE", .timestamp true), ("CLOB", .characterLargeObject),
    ("BLOB", .binaryLargeObject)]

/-- The type that a name with arguments stands for. The type carries the arguments as they are. -/
inductive Known : String → List Nat → DataType → Prop
  | plain {name : String} {type : DataType} : (name, type) ∈ plainTypes → Known name [] type
  | varchar {name : String} (bound : UInt64) : name ∈ ["VARCHAR", "CHARACTER VARYING"] →
      Known name [bound.toNat] (.varchar (some bound))
  | character {name : String} (length : UInt64) : name ∈ ["CHAR", "CHARACTER"] →
      Known name [length.toNat] (.character length)
  | numeric (precision : UInt8) : Known "NUMERIC" [precision.toNat] (.numeric precision 0)
  | scaledNumeric (precision scale : UInt8) :
      Known "NUMERIC" [precision.toNat, scale.toNat] (.numeric precision scale)
  | decimal (precision : UInt8) : Known "DECIMAL" [precision.toNat] (.decimal precision 0)
  | scaledDecimal (precision scale : UInt8) :
      Known "DECIMAL" [precision.toNat, scale.toNat] (.decimal precision scale)
  | float (precision : UInt8) : Known "FLOAT" [precision.toNat] (.float precision)

variable {type : DataType}

theorem Known.length_le (known : Known name args type) : args.length ≤ 2 := by
  cases known <;> simp

/-- An empty name is not known, and a known name has no parenthesis in it. -/
theorem Known.wellFormed (known : Known name args type) : name ≠ "" ∧ '(' ∉ name.toList := by
  have plainNames : ∀ entry ∈ plainTypes, entry.1 ≠ "" ∧ '(' ∉ entry.1.toList := by decide
  have listedNames : ∀ name ∈ ["VARCHAR", "CHARACTER VARYING", "CHAR", "CHARACTER", "NUMERIC",
      "DECIMAL", "FLOAT"], name ≠ "" ∧ '(' ∉ name.toList := by decide
  cases known with
  | plain member => exact plainNames _ member
  | varchar _ member =>
    exact listedNames name (by simp only [List.mem_cons] at member ⊢; tauto)
  | character _ member =>
    exact listedNames name (by simp only [List.mem_cons] at member ⊢; tauto)
  | _ => exact listedNames _ (by simp)

theorem byte?_eq_some_iff {arg : UInt64} {byte : UInt8} :
    byte? arg = some byte ↔ arg.toNat = byte.toNat := by
  rw [byte?]
  split
  · rename_i small
    rw [Option.some.injEq, ← UInt8.toNat_inj, UInt64.toNat_toUInt8, Nat.mod_eq_of_lt small]
  · rename_i large
    constructor
    · nofun
    · intro same
      rw [same] at large
      exact absurd byte.toNat_lt large

theorem exists_byte_of_map {arg : UInt64} {make : UInt8 → DataType}
    (found : (byte? arg).map make = some type) :
    ∃ byte : UInt8, arg.toNat = byte.toNat ∧ make byte = type := by
  obtain ⟨byte, fits, made⟩ := Option.map_eq_some_iff.mp found
  exact ⟨byte, byte?_eq_some_iff.mp fits, made⟩

theorem exists_bytes_of_bind {first second : UInt64} {make : UInt8 → UInt8 → DataType}
    (found : (do return make (← byte? first) (← byte? second)) = some type) :
    ∃ byte byte' : UInt8,
      first.toNat = byte.toNat ∧ second.toNat = byte'.toNat ∧ make byte byte' = type := by
  simp only [Option.bind_eq_bind, Option.bind_eq_some_iff, Option.pure_def,
    Option.some.injEq] at found
  obtain ⟨byte, fits, byte', fits', made⟩ := found
  exact ⟨byte, byte', byte?_eq_some_iff.mp fits, byte?_eq_some_iff.mp fits', made⟩

theorem bare?_eq_some_iff : bare? name = some type ↔ (name, type) ∈ plainTypes := by
  constructor
  · intro found
    unfold bare? at found
    split at found
    all_goals cases found
    all_goals decide +kernel
  · have entries : ∀ entry ∈ plainTypes, bare? entry.1 = some entry.2 := by decide +kernel
    exact entries (name, type)

theorem known_of_sized? {size : UInt64} (found : sized? size name = some type) :
    Known name [size.toNat] type := by
  unfold sized? at found
  split at found
  · cases found
    exact .varchar size (by simp)
  · cases found
    exact .varchar size (by simp)
  · cases found
    exact .character size (by simp)
  · cases found
    exact .character size (by simp)
  · obtain ⟨precision, value, rfl⟩ := exists_byte_of_map found
    rw [value]
    exact .numeric precision
  · obtain ⟨precision, value, rfl⟩ := exists_byte_of_map found
    rw [value]
    exact .decimal precision
  · obtain ⟨precision, value, rfl⟩ := exists_byte_of_map found
    rw [value]
    exact .float precision
  · cases found

theorem sized?_of_known {size : UInt64} (known : Known name [size.toNat] type) :
    sized? size name = some type := by
  have byte {precision : UInt8} (same : [size.toNat] = [precision.toNat]) :
      byte? size = some precision := byte?_eq_some_iff.mpr (List.singleton_inj.mp same)
  generalize same : [size.toNat] = args at known
  cases known with
  | plain => cases same
  | varchar bound member =>
    obtain rfl := UInt64.toNat_inj.mp (List.singleton_inj.mp same)
    simp only [List.mem_cons, List.not_mem_nil, or_false] at member
    rcases member with rfl | rfl <;> rfl
  | character length member =>
    obtain rfl := UInt64.toNat_inj.mp (List.singleton_inj.mp same)
    simp only [List.mem_cons, List.not_mem_nil, or_false] at member
    rcases member with rfl | rfl <;> rfl
  | numeric precision =>
    change (byte? size).map (DataType.numeric · 0) = _
    rw [byte same, Option.map_some]
  | decimal precision =>
    change (byte? size).map (DataType.decimal · 0) = _
    rw [byte same, Option.map_some]
  | float precision =>
    change (byte? size).map DataType.float = _
    rw [byte same, Option.map_some]
  | scaledNumeric | scaledDecimal => simp at same

theorem known_of_scaled? {first second : UInt64} (found : scaled? first second name = some type) :
    Known name [first.toNat, second.toNat] type := by
  unfold scaled? at found
  split at found
  · obtain ⟨precision, scale, value, value', rfl⟩ := exists_bytes_of_bind found
    rw [value, value']
    exact .scaledNumeric precision scale
  · obtain ⟨precision, scale, value, value', rfl⟩ := exists_bytes_of_bind found
    rw [value, value']
    exact .scaledDecimal precision scale
  · cases found

theorem scaled?_of_known {first second : UInt64}
    (known : Known name [first.toNat, second.toNat] type) :
    scaled? first second name = some type := by
  have bytes {precision scale : UInt8}
      (same : [first.toNat, second.toNat] = [precision.toNat, scale.toNat]) :
      byte? first = some precision ∧ byte? second = some scale := by
    rw [byte?_eq_some_iff, byte?_eq_some_iff]
    simpa using same
  generalize same : [first.toNat, second.toNat] = args at known
  cases known with
  | plain => cases same
  | scaledNumeric precision scale =>
    change (do return DataType.numeric (← byte? first) (← byte? second)) = _
    rw [(bytes same).1, (bytes same).2]
    rfl
  | scaledDecimal precision scale =>
    change (do return DataType.decimal (← byte? first) (← byte? second)) = _
    rw [(bytes same).1, (bytes same).2]
    rfl
  | _ => simp at same

theorem type?_eq_some_iff {words : List UInt64} :
    type? ⟨name, words⟩ = some type ↔ Known name (words.map UInt64.toNat) type := by
  match words with
  | [] =>
    constructor
    · exact fun found => .plain (bare?_eq_some_iff.mp found)
    · rintro ⟨⟩
      exact bare?_eq_some_iff.mpr ‹_›
  | [size] => exact ⟨known_of_sized?, sized?_of_known⟩
  | [first, second] => exact ⟨known_of_scaled?, scaled?_of_known⟩
  | _ :: _ :: _ :: _ =>
    constructor
    · nofun
    · intro known
      have short := known.length_le
      simp at short

end TypeDeclaration

/-- The declaration in `source`, without blanks at its ends and in uppercase, spells a known name
with arguments that stand for the type. -/
def DataType.Denotes (source : String) (type : DataType) : Prop :=
  ∃ name args, TypeDeclaration.Declares (Text.upperChars (Text.trimChars source.toList)) name args ∧
    TypeDeclaration.Known name args type

theorem DataType.ofText?_eq_some_iff {source : String} {type : DataType} :
    ofText? source = some type ↔ Denotes source type := by
  rw [ofText?, Option.bind_eq_some_iff]
  constructor
  · rintro ⟨⟨name, words⟩, read, found⟩
    have known := TypeDeclaration.type?_eq_some_iff.mp found
    exact ⟨name, _, TypeDeclaration.declares_of_read? read known.wellFormed.1, known⟩
  · rintro ⟨name, args, declares, known⟩
    obtain ⟨words, read, rfl⟩ := declares.exists_read? rfl known.wellFormed.2
    exact ⟨_, read, TypeDeclaration.type?_eq_some_iff.mpr known⟩

example : DataType.ofText? " numeric ( +010,\t2 ) " = some (.numeric 10 2) := by decide

namespace ColumnSpec

variable {spec : ColumnSpec}

theorem column_eq_error_iff {error : FixtureError} :
    spec.column = .error error ↔
      error = .unknownType spec.type ∧ DataType.ofText? spec.type = none := by
  rw [column]
  split
  · rename_i unread
    rw [Except.error.injEq, and_iff_left unread]
    exact eq_comm
  · rename_i type read
    rw [read]
    exact ⟨nofun, fun parts => absurd parts.2 nofun⟩

theorem exists_column_iff {type : DataType} :
    (∃ column, spec.column = .ok column ∧ column.type = type) ↔
      DataType.ofText? spec.type = some type := by
  rw [column]
  split
  · rename_i unread
    rw [unread]
    constructor
    · rintro ⟨column, built, -⟩
      cases built
    · nofun
  · rename_i read
    rw [read, Option.some.injEq]
    constructor
    · rintro ⟨column, built, rfl⟩
      cases built
      split <;> rfl
    · rintro rfl
      refine ⟨_, rfl, ?_⟩
      split <;> rfl

/-- The type of a column is the one that its declaration denotes, and a declaration that denotes
none is reported as it was written. -/
theorem column_type_iff_denotes (spec : ColumnSpec) :
    (∀ type, DataType.ofText? spec.type = some type ↔ DataType.Denotes spec.type type) ∧
    (∀ type, (∃ column, spec.column = .ok column ∧ column.type = type) ↔
      DataType.Denotes spec.type type) ∧
    ∀ error, spec.column = .error error ↔
      error = .unknownType spec.type ∧ ∀ type, ¬DataType.Denotes spec.type type := by
  refine ⟨fun type => DataType.ofText?_eq_some_iff, fun type => ?_, fun error => ?_⟩
  · rw [exists_column_iff, DataType.ofText?_eq_some_iff]
  · simp only [column_eq_error_iff, ← DataType.ofText?_eq_some_iff,
      Option.eq_none_iff_forall_ne_some, ne_eq]

end ColumnSpec

end CatalogViews
