import CatalogViews.Fixture.Script
import CatalogViews.Proofs.KeyListing
import CatalogViews.Proofs.Restrictions

/-!
# Reported column sizes

A length is a word of 64 bits without a sign, the precision of a type has a sign, and a cell has 32
bits. The last step cuts a number that is too large down to the greatest one. The step before reads
the bits of a length as they are, so a length from `2 ^ 63` on is a negative number by the time that
it is cut. `DataType.ShownAs` says what becomes of a size: it is cut as it should be exactly when it
is below `2 ^ 63`, and shown as a negative number otherwise. Both views that show the size of a
column show it so, and the size grows with the length as long as the length stays on one side.
-/

namespace CatalogViews

namespace DataType

/-- The length or precision with which a type is declared; that of its kind for a type that is
declared without one. -/
def declaredSize : DataType → Nat
  | numeric precision _ => precision.toNat
  | decimal precision _ => precision.toNat
  | float precision => precision.toNat
  | character length => length.toNat
  | varchar (some bound) => bound.toNat
  | bit (some length) => length.toNat
  | type => type.precision.toInt.toNat

/-- The declared size is a word of 64 bits, and the precision is that word read with a sign. -/
theorem exists_word (type : DataType) :
    ∃ word : UInt64, type.precision = word.toInt64 ∧ type.declaredSize = word.toNat := by
  have byte (n : UInt8) :
      ∃ word : UInt64, Int64.ofNat n.toNat = word.toInt64 ∧ n.toNat = word.toNat := by
    have small : n.toNat < 2 ^ 64 := Nat.lt_trans n.toNat_lt (by decide)
    exact ⟨.ofNat n.toNat, UInt64.toInt64_ofNat'.symm, (UInt64.toNat_ofNat_of_lt' small).symm⟩
  have fixed (other : DataType) (positive : 0 ≤ other.precision.toInt) :
      ∃ word : UInt64, other.precision = word.toInt64 ∧
        other.precision.toInt.toNat = word.toNat := by
    refine ⟨other.precision.toUInt64, rfl, ?_⟩
    have signed : other.precision.toInt = _ := Value.toInt_toInt64 other.precision.toUInt64
    have small := other.precision.toUInt64.toNat_lt
    split at signed <;> omega
  cases type with
  | numeric precision _ => exact byte precision
  | decimal precision _ => exact byte precision
  | float precision => exact byte precision
  | character length => exact ⟨length, rfl, rfl⟩
  | varchar bound =>
    cases bound with
    | none => exact fixed (varchar none) (by decide)
    | some bound => exact ⟨bound, rfl, rfl⟩
  | bit length =>
    cases length with
    | none => exact fixed (bit none) (by decide)
    | some length => exact ⟨length, rfl, rfl⟩
  | time withTimeZone => cases withTimeZone <;> exact fixed _ (by decide)
  | timestamp withTimeZone => cases withTimeZone <;> exact fixed _ (by decide)
  | interval first last => exact fixed (interval first last) (show 0 ≤ Int64.toInt 18 by decide)
  | userDefined name => exact fixed (userDefined name) (show 0 ≤ maxStringLength.toInt by decide)
  | _ => exact fixed _ (by decide)

/-- What a cell of 32 bits says of the size of a type: the size, cut down to the greatest number of
32 bits, for a size that is a word of 64 bits with a sign, and a negative number for any other. -/
structure ShownAs (type : DataType) (size : Int32) : Prop where
  saturates_iff : size.toInt = min (type.declaredSize : Int) 2147483647 ↔
    type.declaredSize < 2 ^ 63
  nonneg_iff : 0 ≤ size.toInt ↔ type.declaredSize < 2 ^ 63
  of_large : 2 ^ 63 ≤ type.declaredSize →
    size.toInt = max ((type.declaredSize : Int) - 2 ^ 64) (-2147483648)

theorem exists_sizeCell (type : DataType) :
    ∃ size, sizeCell type = .integer size ∧ type.ShownAs size := by
  refine ⟨_, rfl, ?_⟩
  obtain ⟨word, precision, declared⟩ := type.exists_word
  have size := toInt_clamp32_eq word.toInt64.toInt
  have signed := Value.toInt_toInt64 word
  have small := word.toNat_lt
  rw [precision]
  by_cases fits : word.toNat < 2 ^ 63
  · rw [if_pos fits] at signed
    constructor <;> rw [declared] <;> omega
  · rw [if_neg fits] at signed
    constructor <;> rw [declared] <;> omega

/-- Only one number says it. -/
theorem ShownAs.eq {type : DataType} {size size' : Int32} (shown : type.ShownAs size)
    (shown' : type.ShownAs size') : size = size' := by
  apply Int32.toInt_inj.mp
  by_cases fits : type.declaredSize < 2 ^ 63
  · rw [shown.saturates_iff.mpr fits, shown'.saturates_iff.mpr fits]
  · rw [shown.of_large (by omega), shown'.of_large (by omega)]

/-- The types that are declared with a length, by their lengths. -/
def withLength : List (UInt64 → DataType) :=
  [character, fun length => varchar (some length), fun length => bit (some length)]

theorem declaredSize_of_withLength {kind : UInt64 → DataType} (member : kind ∈ withLength)
    (length : UInt64) : (kind length).declaredSize = length.toNat := by
  simp only [withLength, List.mem_cons, List.not_mem_nil, or_false] at member
  rcases member with rfl | rfl | rfl <;> rfl

/-- A greater length is shown as a greater number unless only the greater one is too long. -/
theorem ShownAs.le_iff {kind : UInt64 → DataType} (member : kind ∈ withLength)
    {length longer : UInt64} (le : length ≤ longer) {size size' : Int32}
    (shown : (kind length).ShownAs size) (shown' : (kind longer).ShownAs size') :
    size.toInt ≤ size'.toInt ↔ (length.toNat < 2 ^ 63 → longer.toNat < 2 ^ 63) := by
  obtain ⟨saturates, nonneg, large⟩ := shown
  obtain ⟨saturates', nonneg', large'⟩ := shown'
  rw [declaredSize_of_withLength member] at saturates nonneg large saturates' nonneg' large'
  have le := UInt64.le_iff_toNat_le.mp le
  by_cases fits : length.toNat < 2 ^ 63 <;> by_cases fits' : longer.toNat < 2 ^ 63
  · have first := saturates.mpr fits
    have second := saturates'.mpr fits'
    omega
  · have first := nonneg.mpr fits
    have second := mt nonneg'.mp fits'
    omega
  · omega
  · have first := large (by omega)
    have second := large' (by omega)
    omega

end DataType

namespace ResultTable

/-- A row is about a column and shows its size in the columns of the given names. -/
structure ReportsSize (table : ResultTable) (names : List String) (column : Column) (row : Row) :
    Prop where
  name : table.cellIn? row "COLUMN_NAME" = some (.varchar column.name)
  size : ∃ size, column.type.ShownAs size ∧
    ∀ name ∈ names, table.cellIn? row name = some (.integer size)

theorem ReportsSize.cell_eq {table : ResultTable} {names : List String} {column : Column}
    {row : Row} (reports : table.ReportsSize names column row) {size : Int32}
    (shown : column.type.ShownAs size) {name : String} (member : name ∈ names) :
    table.cellIn? row name = some (.integer size) := by
  obtain ⟨size', shown', cells⟩ := reports.size
  rw [cells name member, shown'.eq shown]

end ResultTable

namespace Metadata

variable {m : Metadata} {catalog schema table pattern : Option String} {answer : ResultTable}
variable {row : Row}

theorem mem_values_of_schemasLike {like : Option LikePattern} {owner : Schema}
    (selected : owner ∈ m.catalog.schemasLike like) : owner ∈ m.catalog.schemas.values := by
  cases like with
  | none => exact selected
  | some pattern =>
    simp only [Catalog.schemasLike] at selected
    split at selected
    · exact Keyed.mem_values_iff.mpr ⟨_, Option.mem_toList.mp selected⟩
    · exact (List.mem_filter.mp selected).1

/-- What patterns list is listed without them. -/
theorem mem_listed_none {schemaLike tableLike : Option LikePattern} {p : Schema × Entry}
    (member : p ∈ m.listed schemaLike tableLike) : p ∈ m.listed none none := by
  simp only [listed, List.mem_flatMap, List.mem_map, List.mem_filter] at member ⊢
  obtain ⟨owner, selected, entry, ⟨has, visible⟩, made⟩ := member
  refine ⟨owner, mem_values_of_schemasLike selected, entry, ⟨?_, visible⟩, made⟩
  cases tableLike with
  | none => exact has
  | some pattern =>
    rw [entries_some] at has
    exact (List.mem_filter.mp has).1

theorem exists_column_of_mem (answered : m.columns catalog schema table pattern = .ok answer)
    (member : row ∈ answer.rows) :
    ∃ p ∈ m.listed none none, ∃ column ∈ p.2.definition.columns,
      answer.namesIn row = shownNames p ∧
      answer.ReportsSize ["COLUMN_SIZE", "CHAR_OCTET_LENGTH"] column row := by
  obtain ⟨-, answered⟩ := columns_eq_ok_iff.mp answered
  split at answered
  · obtain ⟨schemaLike, -, tableLike, -, columnLike, -, rfl⟩ := answered
    have listed : row ∈ (m.columnsOf none (m.listed schemaLike tableLike)).rows := by
      cases columnLike with
      | none => exact member
      | some pattern =>
        rw [rows_columnsOf_some] at member
        exact (List.mem_filter.mp member).1
    obtain ⟨p, inListing, ofEntry⟩ := mem_columnsOf_iff.mp listed
    refine ⟨p, mem_listed_none inListing, ?_⟩
    rw [entryColumnRows_none] at ofEntry
    obtain ⟨⟨column, index⟩, placed, rfl⟩ := List.mem_map.mp ofEntry
    have owned : column ∈ p.2.definition.columns := by
      rw [← List.zipIdx_map_fst 0 p.2.definition.columns]
      exact List.mem_map_of_mem placed
    obtain ⟨size, made, shown⟩ := column.type.exists_sizeCell
    refine ⟨column, owned, namesIn_columnRow rfl _ _ _ _, ?_, size, shown, ?_⟩
    · rw [ResultTable.cellIn?_of_columns rfl]
      rfl
    · simp only [List.forall_mem_cons, ResultTable.cellIn?_of_columns rfl, ← made]
      exact ⟨rfl, rfl, List.forall_mem_nil _⟩
  · rw [← answered] at member
    cases member

/-- A row that helps to identify a row of a table is about a column of the table. -/
theorem exists_column_of_mem_bestRow (answered : m.bestRow catalog schema table = .ok answer)
    (member : row ∈ answer.rows) :
    ∃ name, table = some name ∧ ∃ found ∈ m.findTables schema name,
      ∃ column ∈ found.table.columns, answer.ReportsSize ["COLUMN_SIZE"] column row := by
  unfold bestRow at answered
  rw [bind_eq_ok_iff] at answered
  obtain ⟨name, named, answered⟩ := answered
  obtain ⟨-, answered⟩ := checked_eq_ok_iff.mp answered
  refine ⟨name, required_eq_ok_iff.mp named, ?_⟩
  split at answered
  · cases answered
    obtain ⟨found, inFound, ofTable⟩ := List.mem_flatMap.mp member
    refine ⟨found, inFound, ?_⟩
    cases declared : found.table.primaryKey with
    | none =>
      rw [bestRowRows, declared] at ofTable
      cases ofTable
    | some key =>
      rw [bestRowRows_of_declared declared] at ofTable
      obtain ⟨column, inKey, rfl⟩ := List.mem_map.mp ofTable
      obtain ⟨name, -, looked⟩ := List.mem_filterMap.mp inKey
      have owned : column ∈ found.table.columns := List.mem_of_find?_eq_some looked
      obtain ⟨size, made, shown⟩ := column.type.exists_sizeCell
      refine ⟨column, owned, ?_, size, shown, ?_⟩
      · rw [ResultTable.cellIn?_of_columns rfl]
        rfl
      · simp only [List.forall_mem_cons, ResultTable.cellIn?_of_columns rfl, ← made]
        exact ⟨rfl, List.forall_mem_nil _⟩
  · rw [← answered] at member
    cases member

theorem rows_columnsOf_ne_nil {entries : List (Schema × Entry)} {p : Schema × Entry}
    (member : p ∈ entries) (columns : p.2.definition.columns ≠ []) :
    (m.columnsOf none entries).rows ≠ [] := by
  have notEmpty := mt (m.entryColumnRows_none_eq_nil_iff p.1 p.2).mp columns
  obtain ⟨row, ofEntry⟩ := List.exists_mem_of_ne_nil _ notEmpty
  exact List.ne_nil_of_mem (mem_columnsOf_iff.mpr ⟨p, member, ofEntry⟩)

/-- Both views show the size of a column cut down to the greatest number of 32 bits exactly when it
is below `2 ^ 63`, and a greater length as a smaller number exactly when only the greater one is
not. -/
theorem columnSizes_saturate_iff (m : Metadata) :
    (∀ catalog schema table pattern answer, m.columns catalog schema table pattern = .ok answer →
      ∀ row ∈ answer.rows, ∃ p ∈ m.listed none none, ∃ column ∈ p.2.definition.columns,
        answer.namesIn row = shownNames p ∧
        answer.ReportsSize ["COLUMN_SIZE", "CHAR_OCTET_LENGTH"] column row) ∧
    (∀ catalog schema table answer, m.bestRow catalog schema table = .ok answer →
      ∀ row ∈ answer.rows, ∃ name, table = some name ∧ ∃ found ∈ m.findTables schema name,
        ∃ column ∈ found.table.columns, answer.ReportsSize ["COLUMN_SIZE"] column row) ∧
    ∀ kind ∈ DataType.withLength, ∀ length longer, length ≤ longer → ∀ size size',
      (kind length).ShownAs size → (kind longer).ShownAs size' →
        (size.toInt ≤ size'.toInt ↔ (length.toNat < 2 ^ 63 → longer.toNat < 2 ^ 63)) :=
  ⟨fun _ _ _ _ _ answered _ member => exists_column_of_mem answered member,
    fun _ _ _ _ answered _ member => exists_column_of_mem_bestRow answered member,
    fun _ member _ _ le _ _ shown shown' => shown.le_iff member le shown'⟩

/-- A length of more than 32 bits is shown as the greatest number of 32 bits, in both views. -/
theorem columnSizes_saturate_of_long_column :
    let column : Column := { name := "A", type := .character 3000000000 }
    let history : List Operation := [.createTable { name := "T", columns := [column] },
      .setPrimaryKey "PUBLIC" "T" ⟨"K", ["A"]⟩]
    let m : Metadata := .ofCatalog ((Catalog.started "C" .insensitive).after history) {} {}
    ∃ answer best, m.columns none none none none = .ok answer ∧
      m.bestRow none none (some "T") = .ok best ∧ answer.rows ≠ [] ∧ best.rows ≠ [] ∧
      (∀ row ∈ answer.rows, ∀ name ∈ ["COLUMN_SIZE", "CHAR_OCTET_LENGTH"],
        answer.cellIn? row name = some (.integer 2147483647)) ∧
      ∀ row ∈ best.rows, best.cellIn? row "COLUMN_SIZE" = some (.integer 2147483647) := by
  intro column history m
  obtain ⟨ofColumns, ofBest, -⟩ := columnSizes_saturate_iff m
  have answered : m.columns none none none none = .ok (m.columnsOf none (m.listed none none)) :=
    columns_eq_ok_iff.mpr ⟨rfl, none, rfl, none, rfl, none, rfl, rfl⟩
  have bestAnswered : m.bestRow none none (some "T") =
      .ok ⟨bestRowColumns, (m.findTables none "T").flatMap m.bestRowRows⟩ := rfl
  have long : (DataType.character 3000000000).ShownAs 2147483647 :=
    ⟨by decide, by decide, by decide⟩
  refine ⟨_, _, answered, bestAnswered, ?_, by decide +kernel, ?_, ?_⟩
  · obtain ⟨p, listed, columns⟩ :
        ∃ p ∈ m.listed none none, p.2.definition.columns ≠ [] := by decide +kernel
    exact rows_columnsOf_ne_nil listed columns
  · intro row member name shown
    obtain ⟨p, listed, column, owned, -, reports⟩ := ofColumns _ _ _ _ _ answered row member
    have types : ∀ p ∈ m.listed none none, ∀ column ∈ p.2.definition.columns,
        column.type = .character 3000000000 := by decide +kernel
    exact reports.cell_eq (types p listed column owned ▸ long) shown
  · intro row member
    obtain ⟨_, ⟨⟩, found, inFound, column, owned, reports⟩ := ofBest _ _ _ _ bestAnswered row member
    have types : ∀ found ∈ m.findTables none "T", ∀ column ∈ found.table.columns,
        column.type = .character 3000000000 := by decide +kernel
    exact reports.cell_eq (types found inFound column owned ▸ long) List.mem_cons_self

/-- A length that a document may write is shown as a negative number. -/
theorem columnSize_of_large_length :
    let fixture : Fixture := {
      name := "C", caseMode := .insensitive, schemas := [{
        name := "PUBLIC", tables := [{
          name := "T", primaryKey := ["A"], columns := [
            { name := "A", type := "VARCHAR(9223372036854775808)" }] }] }] }
    ∃ catalog, fixture.build = .ok catalog ∧
      let m : Metadata := .ofCatalog catalog {} {}
      ∃ answer, m.columns none none none none = .ok answer ∧ answer.rows ≠ [] ∧
        ∀ row ∈ answer.rows, ∀ name ∈ ["COLUMN_SIZE", "CHAR_OCTET_LENGTH"],
          answer.cellIn? row name = some (.integer (-2147483648)) := by
  intro fixture
  have contents : (fixture.build.toOption.map fun catalog =>
      ((Metadata.ofCatalog catalog {} {}).listed none none).map (·.2.definition.columns)) =
        some [[{
          name := "A", type := .varchar (some 9223372036854775808), nullable := false }]] := by
    decide +kernel
  obtain ⟨catalog, built, contents⟩ := exists_eq_ok_of_map_toOption contents
  refine ⟨catalog, built, ?_⟩
  intro m
  obtain ⟨p, listed, columns⟩ := List.map_eq_singleton_iff.mp contents
  have answered : m.columns none none none none = .ok (m.columnsOf none (m.listed none none)) :=
    columns_eq_ok_iff.mpr ⟨rfl, none, rfl, none, rfl, none, rfl, rfl⟩
  refine ⟨_, answered, ?_, ?_⟩
  · have inListing : p ∈ m.listed none none := by
      rw [listed]
      exact List.mem_singleton_self p
    refine rows_columnsOf_ne_nil inListing ?_
    rw [columns]
    exact List.cons_ne_nil _ _
  · intro row member name shown
    obtain ⟨q, inListing, column, owned, -, reports⟩ := exists_column_of_mem answered member
    rw [listed, List.mem_singleton] at inListing
    rw [inListing, columns, List.mem_singleton] at owned
    apply reports.cell_eq _ shown
    rw [owned]
    exact ⟨by decide, by decide, by decide⟩

end Metadata

end CatalogViews
