import CatalogViews.Proofs.SortedRows
import CatalogViews.Render.Csv

/-!
# Reading comma-separated output

`Render.readCsv` reads a result table back from its comma-separated form. It cuts the text at the
line feeds that stand outside quotes and each line at the commas that stand outside quotes, and then
takes the quotes off each field. The last line feed starts no line.

A field as it is written is never cut (`Render.uncut_csvField`): either it has no quote and no
separator at all, or it stands between quotes, and then a doubled quote closes the quotes and opens
them again at once. So reading gives back the column names and the texts of all cells. Only a line
without any field could not be told from one with an empty field, and a full table with a column has
no such line.
-/

namespace CatalogViews.Render

/-- The pieces of a text between the separators that stand outside quotes. The flag tells whether
the text starts inside quotes. -/
def splitOutside (separator : Char) : Bool → List Char → List (List Char)
  | _, [] => [[]]
  | quoted, c :: text =>
    if c = separator ∧ quoted = false then [] :: splitOutside separator quoted text
    else (splitOutside separator (quoted != (c == '"')) text).modifyHead (c :: ·)

/-- The text with every doubled quote written once. -/
def undoubleQuotes : List Char → List Char
  | '"' :: '"' :: text => '"' :: undoubleQuotes text
  | c :: text => c :: undoubleQuotes text
  | [] => []

/-- The text of a field, which may stand between quotes. -/
def unquote : List Char → List Char
  | '"' :: text => undoubleQuotes text.dropLast
  | text => text

/-- The texts of the fields of all lines. -/
def readCsv (text : String) : List (List String) :=
  (splitOutside '\n' false text.toList).dropLast.map fun line =>
    (splitOutside ',' false line).map fun field => String.ofList (unquote field)

variable {separator : Char} {field piece text : List Char}

theorem doubleQuotes_cons_quote (field : List Char) :
    doubleQuotes ('"' :: field) = '"' :: '"' :: doubleQuotes field :=
  rfl

theorem doubleQuotes_cons {c : Char} (notQuote : c ≠ '"') (field : List Char) :
    doubleQuotes (c :: field) = c :: doubleQuotes field := by
  simp [doubleQuotes, notQuote]

theorem splitOutside_cons_of_kept {quoted : Bool} {c : Char}
    (kept : ¬(c = separator ∧ quoted = false)) (text : List Char) :
    splitOutside separator quoted (c :: text) =
      (splitOutside separator (quoted != (c == '"')) text).modifyHead (c :: ·) :=
  if_neg kept

/-- A split does not cut the piece and comes out of it outside quotes. -/
def Uncut (separator : Char) (piece : List Char) : Prop :=
  ∀ rest, splitOutside separator false (piece ++ rest) =
    (splitOutside separator false rest).modifyHead (piece ++ ·)

theorem uncut_nil : Uncut separator [] := by
  intro rest
  simp only [List.nil_append]
  exact (congrFun List.modifyHead_id _).symm

theorem Uncut.append (first : Uncut separator piece) (second : Uncut separator text) :
    Uncut separator (piece ++ text) := by
  intro rest
  have joined : (piece ++ ·) ∘ (text ++ ·) = fun tail => piece ++ text ++ tail := by
    funext tail
    exact (List.append_assoc piece text tail).symm
  rw [List.append_assoc, first, second, List.modifyHead_modifyHead, joined]

theorem uncut_of_plain (plain : ∀ c ∈ piece, c ≠ separator ∧ c ≠ '"') : Uncut separator piece := by
  induction piece with
  | nil => exact uncut_nil
  | cons c piece ih =>
    rw [List.forall_mem_cons] at plain
    obtain ⟨⟨notSeparator, notQuote⟩, later⟩ := plain
    intro rest
    have outside : (false != (c == '"')) = false := by simpa using notQuote
    rw [List.cons_append, splitOutside_cons_of_kept (fun cut => notSeparator cut.1), outside,
      ih later, List.modifyHead_modifyHead]
    rfl

/-- Inside quotes nothing is cut, and doubled quotes lead back inside. -/
theorem splitOutside_doubleQuotes (notQuote : separator ≠ '"') (field rest : List Char) :
    splitOutside separator true (doubleQuotes field ++ rest) =
      (splitOutside separator true rest).modifyHead (doubleQuotes field ++ ·) := by
  induction field with
  | nil => exact (congrFun List.modifyHead_id _).symm
  | cons c field ih =>
    by_cases quote : c = '"'
    · rw [quote, doubleQuotes_cons_quote, List.cons_append, List.cons_append,
        splitOutside_cons_of_kept (fun cut => Bool.noConfusion cut.2),
        splitOutside_cons_of_kept (fun cut => notQuote cut.1.symm)]
      simp only [beq_self_eq_true, bne_self_eq_false, Bool.false_bne, ih,
        List.modifyHead_modifyHead]
      rfl
    · have inside : (true != (c == '"')) = true := by simpa using quote
      rw [doubleQuotes_cons quote, List.cons_append,
        splitOutside_cons_of_kept (fun cut => Bool.noConfusion cut.2), inside, ih,
        List.modifyHead_modifyHead]
      rfl

/-- A written field is not cut, at commas as little as at line feeds. -/
theorem uncut_csvField (separates : separator = ',' ∨ separator = '\n') (field : List Char) :
    Uncut separator (csvField field) := by
  have notQuote : separator ≠ '"' := by
    rcases separates with rfl | rfl <;> decide
  by_cases quoted : needsQuotes field = true
  · intro rest
    rw [csvField, if_pos quoted, List.cons_append, List.cons_append, List.append_assoc,
      List.singleton_append, splitOutside_cons_of_kept (fun cut => notQuote cut.1.symm)]
    have opened : (false != ('"' == '"')) = true := rfl
    have closed : (true != ('"' == '"')) = false := rfl
    rw [opened, splitOutside_doubleQuotes notQuote,
      splitOutside_cons_of_kept (fun cut => Bool.noConfusion cut.2), closed,
      List.modifyHead_modifyHead, List.modifyHead_modifyHead]
    congr 1
    funext tail
    simp
  · rw [csvField, if_neg quoted]
    apply uncut_of_plain
    intro c member
    simp only [needsQuotes, List.any_eq_true, Bool.or_eq_true, beq_iff_eq, not_exists,
      not_and, not_or] at quoted
    obtain ⟨⟨notComma, notQuote⟩, notLineFeed⟩ := quoted c member
    refine ⟨?_, notQuote⟩
    rcases separates with rfl | rfl
    · exact notComma
    · exact notLineFeed

theorem Uncut.split (uncut : Uncut separator piece) :
    splitOutside separator false piece = [piece] := by
  have whole := uncut []
  rw [List.append_nil] at whole
  rw [whole, splitOutside, List.modifyHead_cons, List.append_nil]

theorem Uncut.split_append (uncut : Uncut separator piece) (rest : List Char) :
    splitOutside separator false (piece ++ separator :: rest) =
      piece :: splitOutside separator false rest := by
  rw [uncut, splitOutside, if_pos ⟨rfl, rfl⟩, List.modifyHead_cons, List.append_nil]

theorem splitOutside_lines {lines : List (List Char)} (uncut : ∀ line ∈ lines, Uncut '\n' line) :
    splitOutside '\n' false (lines.flatMap (· ++ ['\n'])) = lines ++ [[]] := by
  induction lines with
  | nil => rfl
  | cons line lines ih =>
    rw [List.forall_mem_cons] at uncut
    rw [List.flatMap_cons, List.append_assoc, List.singleton_append, uncut.1.split_append,
      ih uncut.2, List.cons_append]

theorem splitOutside_intercalate {fields : List (List Char)} (nonempty : fields ≠ [])
    (uncut : ∀ field ∈ fields, Uncut separator field) :
    splitOutside separator false ([separator].intercalate fields) = fields := by
  induction fields with
  | nil => exact absurd rfl nonempty
  | cons field fields ih =>
    rw [List.forall_mem_cons] at uncut
    cases fields with
    | nil =>
      rw [List.intercalate_singleton]
      exact uncut.1.split
    | cons next fields =>
      rw [List.intercalate_cons_cons, List.append_assoc, List.singleton_append,
        uncut.1.split_append, ih (List.cons_ne_nil next fields) uncut.2]

theorem uncut_intercalate {glue : List Char} (uncutGlue : Uncut separator glue)
    {fields : List (List Char)} (uncut : ∀ field ∈ fields, Uncut separator field) :
    Uncut separator (glue.intercalate fields) := by
  induction fields with
  | nil => exact uncut_nil
  | cons field fields ih =>
    rw [List.forall_mem_cons] at uncut
    cases fields with
    | nil =>
      rw [List.intercalate_singleton]
      exact uncut.1
    | cons next fields =>
      rw [List.intercalate_cons_cons]
      exact (uncut.1.append uncutGlue).append (ih uncut.2)

theorem undoubleQuotes_cons {c : Char} (notQuote : c ≠ '"') (text : List Char) :
    undoubleQuotes (c :: text) = c :: undoubleQuotes text := by
  rw [undoubleQuotes]
  intro rest quote
  exact absurd quote notQuote

theorem undoubleQuotes_doubleQuotes (field : List Char) :
    undoubleQuotes (doubleQuotes field) = field := by
  induction field with
  | nil => rfl
  | cons c field ih =>
    by_cases quote : c = '"'
    · rw [quote, doubleQuotes_cons_quote, undoubleQuotes, ih]
    · rw [doubleQuotes_cons quote, undoubleQuotes_cons quote, ih]

/-- A field that is written without quotes does not start with one. -/
theorem unquote_csvField (field : List Char) : unquote (csvField field) = field := by
  by_cases quoted : needsQuotes field = true
  · rw [csvField, if_pos quoted, List.cons_append, unquote, List.dropLast_concat,
      undoubleQuotes_doubleQuotes]
  · rw [csvField, if_neg quoted]
    cases field with
    | nil => rfl
    | cons c field =>
      have notQuote : c ≠ '"' := by
        intro quote
        apply quoted
        simp [needsQuotes, quote]
      rw [unquote]
      intro rest same
      exact absurd (List.cons.inj same).1 notQuote

theorem readCsv_lines {lines : List (List (List Char))} (nonempty : ∀ fields ∈ lines, fields ≠ []) :
    readCsv (String.ofList (lines.flatMap csvLine)) = lines.map (·.map String.ofList) := by
  have written : lines.flatMap csvLine =
      (lines.map fun fields => [','].intercalate (fields.map csvField)).flatMap (· ++ ['\n']) := by
    rw [List.flatMap_map]
    rfl
  have uncutLines : ∀ line ∈ lines.map fun fields => [','].intercalate (fields.map csvField),
      Uncut '\n' line := by
    intro line member
    obtain ⟨fields, -, rfl⟩ := List.mem_map.mp member
    apply uncut_intercalate (uncut_of_plain (by simp))
    intro field member
    obtain ⟨content, -, rfl⟩ := List.mem_map.mp member
    exact uncut_csvField (.inr rfl) content
  rw [readCsv, String.toList_ofList, written, splitOutside_lines uncutLines, List.dropLast_concat,
    List.map_map]
  apply List.map_congr_left
  intro fields member
  have uncutFields : ∀ field ∈ fields.map csvField, Uncut ',' field := by
    intro field member
    obtain ⟨content, -, rfl⟩ := List.mem_map.mp member
    exact uncut_csvField (.inl rfl) content
  have someField : fields.map csvField ≠ [] := by
    simpa using nonempty fields member
  rw [Function.comp_apply, splitOutside_intercalate someField uncutFields, List.map_map]
  simp only [Function.comp_def, unquote_csvField]

/-- The text that a cell shows, none for null. -/
def shownText (value : Value) : String :=
  if value.isNull then "" else value.text

/-- The texts that a table shows line by line, the column names in the first line. -/
def shownTexts (table : ResultTable) : List (List String) :=
  table.columnNames :: table.rows.map (·.map shownText)

theorem csvFields_eq (table : ResultTable) :
    csvFields table = (shownTexts table).map (·.map String.toList) := by
  have cell : csvCell = String.toList ∘ shownText := by
    funext value
    rw [csvCell, Function.comp_apply, shownText]
    split <;> rfl
  simp only [csvFields, shownTexts, List.map_cons, List.map_map, cell, Function.comp_def]

theorem readCsv_csv {table : ResultTable} (columns : table.columns ≠ []) (full : table.IsFull) :
    readCsv (csv table) = shownTexts table := by
  have nonempty : ∀ texts ∈ shownTexts table, texts ≠ [] := by
    intro texts member
    rcases List.mem_cons.mp member with header | line
    · rw [header, ResultTable.columnNames]
      simpa using columns
    · obtain ⟨row, inTable, rfl⟩ := List.mem_map.mp line
      have arity := full row inTable
      intro empty
      rw [List.map_eq_nil_iff.mp empty, List.length_nil] at arity
      exact columns (List.length_eq_zero_iff.mp arity.symm)
  have someField : ∀ fields ∈ csvFields table, fields ≠ [] := by
    intro fields member
    rw [csvFields_eq] at member
    obtain ⟨texts, inTable, rfl⟩ := List.mem_map.mp member
    simpa using nonempty texts inTable
  rw [csv, readCsv_lines someField, csvFields_eq, List.map_map]
  simp [Function.comp_def]

/-- The output of a full table with a column tells the column names and the texts of all cells, and
so two such tables have the same output exactly when they show the same. -/
theorem csv_unambiguous {table : ResultTable} (columns : table.columns ≠ [])
    (full : table.IsFull) :
    readCsv (csv table) = table.columnNames :: table.rows.map (·.map shownText) ∧
      ∀ other : ResultTable, other.columns ≠ [] → other.IsFull →
        (csv other = csv table ↔ other.columnNames = table.columnNames ∧
          other.rows.map (·.map shownText) = table.rows.map (·.map shownText)) := by
  refine ⟨readCsv_csv columns full, fun other columns' full' => ?_⟩
  constructor
  · intro same
    have read : shownTexts other = shownTexts table := by
      rw [← readCsv_csv columns full, ← readCsv_csv columns' full', same]
    exact List.cons.inj read
  · intro same
    obtain ⟨names, cells⟩ := same
    have shown : shownTexts other = shownTexts table := by
      rw [shownTexts, shownTexts, names, cells]
    rw [csv, csv, csvFields_eq, csvFields_eq, shown]

/-- Names and texts with separators and quotes in them are read back. An integer and a text of its
digits, or null and an empty text, are written alike. -/
theorem csv_unambiguous_of_quoted_separators :
    let columns : List ResultColumn := [⟨"a,\"b\"", .varchar none⟩, ⟨"", .integer⟩]
    let table : ResultTable := ⟨columns,
      [[.varchar "x\n\"", .null], [.character "\"", .smallint (-1)], [.varchar "", .varchar ","]]⟩
    let other : ResultTable := ⟨columns,
      [[.character "x\n\"", .varchar ""], [.varchar "\"", .varchar "-1"], [.null, .varchar ","]]⟩
    table.columns ≠ [] ∧ table.IsFull ∧ other.IsFull ∧
      csv table = "\"a,\"\"b\"\"\",\n\"x\n\"\"\",\n\"\"\"\",-1\n,\",\"\n" ∧
      readCsv (csv table) = [["a,\"b\"", ""], ["x\n\"", ""], ["\"", "-1"], ["", ","]] ∧
      csv other = csv table := by
  intro columns table other
  have someColumn : table.columns ≠ [] := List.cons_ne_nil _ _
  have full : table.IsFull := by simp [table, ResultTable.IsFull, columns]
  have full' : other.IsFull := by simp [other, ResultTable.IsFull, columns]
  obtain ⟨read, same⟩ := csv_unambiguous someColumn full
  refine ⟨someColumn, full, full', by decide +kernel, read, ?_⟩
  exact (same other someColumn full').mpr ⟨rfl, by decide +kernel⟩

end CatalogViews.Render
