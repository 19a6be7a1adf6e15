import CatalogViews.Proofs.ScriptParts
import CatalogViews.Proofs.TypeGrammar

/-!
# Tables as they are described

A document describes a table with its columns, keys, foreign keys and indexes.
`TableSpec.Describes` says of a table of a catalog that it is the described one: part by part, in
the order of the document, with what the texts of the document stand for. Where the document writes
the name of a column, the table has the declared name of the first column that is the same
identifier (`CaseMode.Spells`). The kind of a table and the actions of a foreign key are those that
the texts are listed with (`TableKind.texts`, `ReferentialAction.texts`), and the type of a column
is the one that its declaration denotes.

The script of a fixture makes a described table in two parts. The first creates it with its keys
(`TableSpec.exists_describesKeys_of_creation`), the second adds the foreign keys and the indexes
(`TableSpec.exists_describes_of_references`). In both, each step adds one element to one part of the
table and keeps all others, so what a run of such steps adds describes element by element what the
document lists (`Fixture.exists_forall₂_of_tableAfter?`).
-/

namespace CatalogViews

/-- Of the names, the stored one is the first that is the same identifier as the written one. -/
def CaseMode.Spells (mode : CaseMode) (names : List String) (written stored : String) : Prop :=
  names.find? (mode.same · written) = some stored

/-- The stored name is the declared name of the column that the written one means. -/
def Table.Spells (mode : CaseMode) (table : Table) (written stored : String) : Prop :=
  mode.Spells (table.columns.map (·.name)) written stored

/-- The texts of the kinds of tables. -/
def TableKind.texts : List (String × TableKind) :=
  [("TABLE", .baseTable), ("BASE TABLE", .baseTable), ("VIEW", .view),
    ("GLOBAL TEMPORARY", .globalTemporary), ("LOCAL TEMPORARY", .localTemporary)]

/-- The texts of the actions. No action is kept as a restriction. -/
def ReferentialAction.texts : List (String × ReferentialAction) :=
  [("CASCADE", .cascade), ("RESTRICT", .restrict), ("NO ACTION", .restrict),
    ("SET NULL", .setNull), ("SET DEFAULT", .setDefault)]

/-- The text, without blanks at its ends and in uppercase, is listed with the value. Where there is
no text, the value is the one for that case. -/
inductive StandsFor {α : Type} (texts : List (String × α)) (absent : α) :
    Option String → α → Prop
  | absent : StandsFor texts absent none absent
  | listed {source : String} {value : α} : (Text.upper (Text.trim source), value) ∈ texts →
      StandsFor texts absent (some source) value

/-- All but whether the column is nullable, which depends on the primary key of the table, too. -/
structure ColumnSpec.Describes (spec : ColumnSpec) (column : Column) : Prop where
  name : column.name = spec.name
  type : DataType.Denotes spec.type column.type
  autoIncrement : column.autoIncrement = spec.autoIncrement
  comment : column.comment = spec.comment
  generated : column.generated = spec.generated.isSome
  /-- A generation expression takes precedence over a default. -/
  expression : column.expression = spec.generated.or spec.default

structure ForeignKeySpec.Describes (catalog : Catalog) (schema : String) (child : Table)
    (spec : ForeignKeySpec) (fk : ForeignKey) : Prop where
  name : fk.name = spec.name
  columns : List.Forall₂ (child.Spells catalog.caseMode) spec.columns fk.columns
  parent : ∃ owner parent, catalog.schema? (spec.parentSchema.getD schema) = some owner ∧
    owner.table? catalog.caseMode spec.parentTable = some parent ∧
      fk.parentSchema = some owner.name ∧ fk.parentTable = parent.name ∧
      List.Forall₂ (parent.Spells catalog.caseMode) spec.parentColumns fk.parentColumns ∧
      ∃ key, parent.keyOver? fk.parentColumns = some key ∧ fk.referencedKey = some key
  onDelete : StandsFor ReferentialAction.texts .restrict spec.onDelete fk.onDelete
  onUpdate : StandsFor ReferentialAction.texts .restrict spec.onUpdate fk.onUpdate

structure IndexSpec.Describes (mode : CaseMode) (table : Table) (spec : IndexSpec)
    (index : Index) : Prop where
  name : index.name = spec.name
  owner : index.table = table.name
  kind : index.kind = .hash ↔ spec.hash = true
  unique : index.unique = spec.unique
  systemGenerated : index.systemGenerated = spec.systemGenerated
  statistics : index.statistics = spec.statistics
  columns : List.Forall₂ (fun written column => table.Spells mode written column.name ∧
    (column.order = .descending ↔ written ∈ spec.descending)) spec.columns index.columns

namespace TableSpec

/-- Whether a name of the primary key means the column at that position. -/
def requires (mode : CaseMode) (spec : TableSpec) (position : Nat) : Bool :=
  spec.primaryKey.any fun written =>
    spec.columns.findIdx? (mode.same ·.name written) == some position

/-- The described table, as far as it does not refer to others. -/
structure DescribesKeys (mode : CaseMode) (spec : TableSpec) (table : Table) : Prop where
  name : table.name = spec.name
  kind : StandsFor TableKind.texts .baseTable spec.kind table.kind
  hidden : table.hidden = spec.hidden
  comment : table.comment = spec.comment
  columns : List.Forall₂ ColumnSpec.Describes spec.columns table.columns
  /-- Columns are nullable as declared, but those of the primary key are not. -/
  nullable : ∀ position : Nat, table.columns[position]?.map (·.nullable) =
    spec.columns[position]?.map fun column => column.nullable && !spec.requires mode position
  noPrimaryKey : table.primaryKey = none ↔ spec.primaryKey = []
  primaryKey : ∀ key ∈ table.primaryKey, key.name = spec.primaryKeyName.getD ("PK_" ++ spec.name) ∧
    List.Forall₂ (table.Spells mode) spec.primaryKey key.columns
  uniqueKeys : List.Forall₂ (fun written stored : Key => stored.name = written.name ∧
    List.Forall₂ (table.Spells mode) written.columns stored.columns) spec.uniqueKeys
      table.uniqueKeys

/-- A table of the catalog is the one that is described under a name of its schema. -/
structure Describes (catalog : Catalog) (schema : String) (spec : TableSpec) (table : Table) :
    Prop extends spec.DescribesKeys catalog.caseMode table where
  foreignKeys : List.Forall₂ (ForeignKeySpec.Describes catalog schema table) spec.foreignKeys
    table.foreignKeys
  indexes : List.Forall₂ (IndexSpec.Describes catalog.caseMode table) spec.indexes table.indexes

end TableSpec

theorem TableKind.ofText?_eq_some_iff {source : String} {kind : TableKind} :
    ofText? source = some kind ↔ (Text.upper (Text.trim source), kind) ∈ texts := by
  unfold ofText?
  generalize Text.upper (Text.trim source) = text
  constructor
  · intro found
    split at found
    all_goals cases found
    all_goals decide
  · intro listed
    simp only [texts, List.mem_cons, Prod.mk.injEq, List.not_mem_nil, or_false] at listed
    rcases listed with ⟨rfl, rfl⟩ | ⟨rfl, rfl⟩ | ⟨rfl, rfl⟩ | ⟨rfl, rfl⟩ | ⟨rfl, rfl⟩
    all_goals rfl

theorem ReferentialAction.ofText?_eq_some_iff {source : String} {action : ReferentialAction} :
    ofText? source = some action ↔ (Text.upper (Text.trim source), action) ∈ texts := by
  unfold ofText?
  generalize Text.upper (Text.trim source) = text
  constructor
  · intro found
    split at found
    all_goals cases found
    all_goals decide
  · intro listed
    simp only [texts, List.mem_cons, Prod.mk.injEq, List.not_mem_nil, or_false] at listed
    rcases listed with ⟨rfl, rfl⟩ | ⟨rfl, rfl⟩ | ⟨rfl, rfl⟩ | ⟨rfl, rfl⟩ | ⟨rfl, rfl⟩
    all_goals rfl

theorem TableSpec.standsFor_of_tableKind {spec : TableSpec} {kind : TableKind}
    (read : spec.tableKind = .ok kind) :
    StandsFor TableKind.texts .baseTable spec.kind kind := by
  unfold tableKind at read
  split at read
  · rename_i absent
    cases read
    rw [absent]
    exact .absent
  · rename_i given
    split at read
    · rename_i known
      cases read
      rw [given]
      exact .listed (TableKind.ofText?_eq_some_iff.mp known)
    · cases read

theorem ReferentialAction.standsFor_of_ofSpec {source : Option String}
    {action : ReferentialAction} (read : ofSpec source = .ok action) :
    StandsFor texts .restrict source action := by
  unfold ofSpec at read
  split at read
  · cases read
    exact .absent
  · split at read
    · rename_i known
      cases read
      exact .listed (ofText?_eq_some_iff.mp known)
    · cases read

namespace CaseMode

variable {mode : CaseMode} {names : List String} {written stored : String}

theorem Spells.declared (spells : mode.Spells names written stored) : stored ∈ names :=
  List.mem_of_find?_eq_some spells

theorem Spells.same (spells : mode.Spells names written stored) :
    mode.key stored = mode.key written := by
  rw [Spells] at spells
  exact CaseMode.same_iff.mp (by simpa using List.find?_some spells)

end CaseMode

namespace Table

variable {mode : CaseMode} {table table' : Table}

theorem spelling_eq_ok_iff {written stored : String} :
    table.spelling mode written = .ok stored ↔ table.Spells mode written stored := by
  rw [Spells, CaseMode.Spells, List.find?_map, spelling, findColumn?, Function.comp_def]
  cases table.columns.find? fun column => mode.same column.name written <;> simp

theorem spellings_eq_ok_iff {written stored : List String} :
    table.spellings mode written = .ok stored ↔
      List.Forall₂ (table.Spells mode) written stored := by
  rw [spellings, mapM_eq_ok_iff]
  simp only [spelling_eq_ok_iff]

theorem Spells.of_columnNames {written stored : String} (spells : table.Spells mode written stored)
    (sameNames : table'.columns.map (·.name) = table.columns.map (·.name)) :
    table'.Spells mode written stored := by
  rw [Spells, sameNames]
  exact spells

theorem respell_eq_ok_iff {index stored : Index} :
    table.respell mode index = .ok stored ↔ ∃ columns,
      List.Forall₂ (fun given column => table.Spells mode given.name column.name ∧
        column.order = given.order) index.columns columns ∧
      stored = { index with table := table.name, columns } := by
  have one (given column : IndexedColumn) :
      (do return { given with name := ← table.spelling mode given.name } :
        Except CatalogError IndexedColumn) = .ok column ↔
      table.Spells mode given.name column.name ∧ column.order = given.order := by
    rw [bind_eq_ok_iff]
    constructor
    · rintro ⟨name, spelled, made⟩
      cases made
      exact ⟨spelling_eq_ok_iff.mp spelled, rfl⟩
    · intro ⟨spells, same⟩
      refine ⟨column.name, spelling_eq_ok_iff.mpr spells, ?_⟩
      rw [← same]
      rfl
  rw [respell, bind_eq_ok_iff]
  simp only [mapM_eq_ok_iff, one]
  constructor
  · rintro ⟨columns, spelled, made⟩
    cases made
    exact ⟨columns, spelled, rfl⟩
  · rintro ⟨columns, spelled, rfl⟩
    exact ⟨columns, spelled, rfl⟩

end Table

/-- The stored name and the written one are first found at the same position. -/
theorem CaseMode.Spells.findIdx?_eq {mode : CaseMode} {names : List String}
    {written stored : String} (spells : mode.Spells names written stored) :
    names.findIdx? (· == stored) = names.findIdx? (mode.same · written) := by
  obtain ⟨same, before, after, rfl, others⟩ := List.find?_eq_some_iff_append.mp spells
  have unmatched : before.findIdx? (mode.same · written) = none := by
    simpa [List.findIdx?_eq_none_iff] using others
  have unequal : before.findIdx? (· == stored) = none := by
    rw [List.findIdx?_eq_none_iff] at unmatched ⊢
    intro name member
    rw [beq_eq_false_iff_ne]
    rintro rfl
    rw [unmatched name member] at same
    cases same
  rw [List.findIdx?_append, List.findIdx?_append, unmatched, unequal, List.findIdx?_cons,
    List.findIdx?_cons, if_pos same, if_pos (beq_self_eq_true stored)]

theorem map_eq_map_of_forall₂ {α β γ : Type} {relation : α → β → Prop} {f : α → γ} {g : β → γ}
    (agree : ∀ a b, relation a b → f a = g b) {l : List α} {l' : List β}
    (related : List.Forall₂ relation l l') : l.map f = l'.map g := by
  induction related with
  | nil => rfl
  | cons here _ ih => rw [List.map_cons, List.map_cons, agree _ _ here, ih]

theorem forall₂_trans {α β γ : Type} {relation : α → β → Prop} {relation' : β → γ → Prop}
    {composed : α → γ → Prop}
    (compose : ∀ a b c, relation a b → relation' b c → composed a c) {l : List α} {l' : List β}
    {l'' : List γ} (first : List.Forall₂ relation l l') (second : List.Forall₂ relation' l' l'') :
    List.Forall₂ composed l l'' := by
  induction first generalizing l'' with
  | nil =>
    cases second
    exact .nil
  | cons here _ ih =>
    cases second with
    | cons here' second => exact .cons (compose _ _ _ here here') (ih second)

namespace Table

variable {mode : CaseMode} {table : Table}

theorem getElem?_requireColumn (required : String) (columns : List Column) (position : Nat) :
    (requireColumn required columns)[position]? = columns[position]?.map fun column =>
      if columns.findIdx? (·.name == required) = some position then
        { column with nullable := false }
      else column := by
  induction columns generalizing position with
  | nil => rfl
  | cons column columns ih =>
    unfold requireColumn
    by_cases here : column.name = required
    · cases position <;> simp [here, List.findIdx?_cons]
    · cases position <;> simp [here, ih, List.findIdx?_cons]

theorem findIdx?_requireColumn (required name : String) (columns : List Column) :
    (requireColumn required columns).findIdx? (·.name == name) =
      columns.findIdx? (·.name == name) := by
  have names := congrArg (List.findIdx? (· == name)) (map_name_requireColumn required columns)
  rw [List.findIdx?_map, List.findIdx?_map] at names
  exact names

/-- A column stays nullable where none of the names is found first. -/
theorem nullable_requireColumns (names : List String) (columns : List Column) (position : Nat) :
    (names.foldl (fun columns name => requireColumn name columns) columns)[position]?.map
        (·.nullable) =
      columns[position]?.map fun column => column.nullable &&
        !names.any fun name => columns.findIdx? (·.name == name) == some position := by
  induction names generalizing columns with
  | nil => simp
  | cons required names ih =>
    rw [List.foldl_cons, ih, getElem?_requireColumn, Option.map_map]
    simp only [findIdx?_requireColumn, List.any_cons]
    congr 1
    funext column
    rw [Function.comp_apply]
    by_cases here : columns.findIdx? (·.name == required) = some position
    · simp [here]
    · rw [if_neg here, beq_eq_false_iff_ne.mpr here, Bool.false_or]

/-- With a primary key, the columns that its names mean are not null. -/
theorem nullable_withPrimaryKey {name : String} {written columns : List String}
    (spelled : List.Forall₂ (table.Spells mode) written columns) (position : Nat) :
    (table.withPrimaryKey ⟨name, columns⟩).columns[position]?.map (·.nullable) =
      table.columns[position]?.map fun column => column.nullable &&
        !written.any fun name =>
          table.columns.findIdx? (mode.same ·.name name) == some position := by
  rw [withPrimaryKey, nullable_requireColumns]
  have positions : (written.map fun name => table.columns.findIdx? (mode.same ·.name name)) =
      columns.map fun name => table.columns.findIdx? (·.name == name) := by
    refine map_eq_map_of_forall₂ ?_ spelled
    intro written stored spells
    have same := CaseMode.Spells.findIdx?_eq spells
    rw [List.findIdx?_map, List.findIdx?_map] at same
    exact same.symm
  have required := congrArg (List.any · (· == some position)) positions
  simp only [List.any_map, Function.comp_def] at required
  rw [required]

end Table

namespace Fixture

variable {base : Catalog}

theorem tableAfter?_append (first second : List ScriptStep) (stored : Option Table) :
    tableAfter? base (first ++ second) stored =
      (tableAfter? base first stored).bind (tableAfter? base second) := by
  induction first generalizing stored with
  | nil => rfl
  | cons step first ih =>
    cases step with
    | error error => rfl
    | ok operation =>
      rw [List.cons_append, tableAfter?, tableAfter?, Option.bind_assoc]
      exact Option.bind_congr fun left _ => ih left

/-- Steps that each add one element to a part of a table add them in order, and what an element has
to do with its step does not depend on the others. -/
theorem exists_forall₂_of_tableAfter? {α β : Type} {step : α → ScriptStep}
    (extend : Table → List β → Table) (relation : Table → α → β → Prop)
    (nothing : ∀ table, extend table [] = table)
    (more : ∀ table added further, extend (extend table added) further =
      extend table (added ++ further))
    (same : ∀ table added item further, relation (extend table added) item further →
      relation table item further)
    (one : ∀ item operation old left, step item = .ok operation →
      operation.tableEffect? base (some old) = some left →
      ∃ added, relation old item added ∧ left = some (extend old [added]))
    {items : List α} {old : Table} {left : Option Table}
    (after : tableAfter? base (items.map step) (some old) = some left) :
    ∃ added, List.Forall₂ (relation old) items added ∧ left = some (extend old added) := by
  induction items generalizing old with
  | nil =>
    cases after
    exact ⟨[], .nil, congrArg some (nothing old).symm⟩
  | cons item items ih =>
    rw [List.map_cons] at after
    cases given : step item with
    | error error =>
      rw [given] at after
      cases after
    | ok operation =>
      rw [given] at after
      obtain ⟨between, effect, after⟩ := Option.bind_eq_some_iff.mp after
      obtain ⟨added, here, rfl⟩ := one item operation old between given effect
      obtain ⟨further, rest, rfl⟩ := ih after
      refine ⟨added :: further, .cons here ?_, congrArg some (more old [added] further)⟩
      exact rest.imp fun _ _ => same old [added] _ _

end Fixture

theorem ColumnSpec.describes_of_column {spec : ColumnSpec} {column : Column}
    (made : spec.column = .ok column) :
    spec.Describes column ∧ column.nullable = spec.nullable := by
  unfold ColumnSpec.column at made
  split at made
  · cases made
  · rename_i type parsed
    rw [DataType.ofText?_eq_some_iff] at parsed
    split at made
    · rename_i expression given
      cases made
      exact ⟨⟨rfl, parsed, rfl, rfl, by rw [given]; rfl, by rw [given]; rfl⟩, rfl⟩
    · rename_i expression none given
      cases made
      exact ⟨⟨rfl, parsed, rfl, rfl, by rw [none]; rfl, by rw [none, given]; rfl⟩, rfl⟩
    · rename_i none none'
      cases made
      exact ⟨⟨rfl, parsed, rfl, rfl, by rw [none]; rfl, by rw [none, none']; rfl⟩, rfl⟩

namespace TableSpec

variable {mode : CaseMode} {spec : TableSpec} {table : Table} {base : Catalog} {schema : String}

/-- A new table is described as far as the description has no keys. -/
theorem describesKeys_of_table (made : spec.table = .ok table) :
    { spec with primaryKey := [], uniqueKeys := [] }.DescribesKeys mode table ∧
      table.foreignKeys = [] ∧ table.indexes = [] := by
  obtain ⟨columns, described, rest⟩ := bind_eq_ok_iff.mp made
  obtain ⟨kind, read, rest⟩ := bind_eq_ok_iff.mp rest
  cases rest
  have described := (mapM_eq_ok_iff.mp described).imp
    fun _ _ made => ColumnSpec.describes_of_column made
  refine ⟨⟨rfl, standsFor_of_tableKind read, rfl, rfl, described.imp fun _ _ both => both.1, ?_, ?_,
    ?_, ?_⟩, rfl, rfl⟩
  · intro position
    have nullable := congrArg (·[position]?)
      (map_eq_map_of_forall₂ (fun _ _ both => both.2.symm) described)
    simp only [List.getElem?_map] at nullable
    simp [requires, nullable]
  · simp
  · exact nofun
  · exact .nil

theorem DescribesKeys.columnNames (describes : spec.DescribesKeys mode table) :
    table.columns.map (·.name) = spec.columns.map (·.name) :=
  (map_eq_map_of_forall₂ (fun _ _ column => column.name.symm) describes.columns).symm

/-- A table gets the described primary key. -/
theorem DescribesKeys.withPrimaryKey
    (describes : { spec with primaryKey := [], uniqueKeys := [] }.DescribesKeys mode table)
    (keyed : spec.primaryKey ≠ []) {columns : List String}
    (spelled : List.Forall₂ (table.Spells mode) spec.primaryKey columns) :
    { spec with uniqueKeys := [] }.DescribesKeys mode (table.withPrimaryKey
      ⟨spec.primaryKeyName.getD (Table.defaultKeyName spec.name), columns⟩) where
  name := describes.name
  kind := describes.kind
  hidden := describes.hidden
  comment := describes.comment
  columns := by
    refine forall₂_trans ?_ describes.columns (Table.forall₂_withPrimaryKey table _)
    rintro described old new here (rfl | ⟨-, rfl⟩)
    · exact here
    · exact ⟨here.name, here.type, here.autoIncrement, here.comment, here.generated,
        here.expression⟩
  nullable position := by
    have names (name : String) : table.columns.findIdx? (mode.same ·.name name) =
        spec.columns.findIdx? (mode.same ·.name name) := by
      have same := congrArg (List.findIdx? (mode.same · name)) describes.columnNames
      rw [List.findIdx?_map, List.findIdx?_map] at same
      exact same
    have before := describes.nullable position
    simp only [requires, List.any_nil, Bool.not_false, Bool.and_true] at before
    rw [Table.nullable_withPrimaryKey spelled]
    have required := congrArg (Option.map (· && !spec.requires mode position)) before
    rw [Option.map_map, Option.map_map] at required
    simp only [names]
    exact required
  noPrimaryKey := by simp [Table.withPrimaryKey, keyed]
  primaryKey := by
    rintro key ⟨⟩
    refine ⟨rfl, spelled.imp fun written stored spells => ?_⟩
    exact spells.of_columnNames (Table.map_name_requireColumns columns table.columns)
  uniqueKeys := by
    rw [Table.withPrimaryKey, List.forall₂_nil_left_iff.mp describes.uniqueKeys]
    exact .nil

/-- The step for the primary key, where there is one. -/
theorem exists_describesKeys_of_key
    (describes : { spec with primaryKey := [], uniqueKeys := [] }.DescribesKeys base.caseMode table)
    {left : Option Table}
    (after : Fixture.tableAfter? base (spec.key?.toList.map fun key =>
      .ok (.setPrimaryKey schema spec.name key)) (some table) = some left) :
    ∃ keyed, left = some keyed ∧ { spec with uniqueKeys := [] }.DescribesKeys base.caseMode keyed ∧
      keyed.foreignKeys = table.foreignKeys ∧ keyed.indexes = table.indexes := by
  by_cases none : spec.primaryKey = []
  · rw [key?, none] at after
    cases after
    refine ⟨table, rfl, ?_, rfl, rfl⟩
    rw [← none] at describes
    exact describes
  · rw [key?, List.isEmpty_eq_false_iff.mpr none] at after
    obtain ⟨next, effect, after⟩ := Option.bind_eq_some_iff.mp after
    cases after
    obtain ⟨_, _, keyed, rfl, edits⟩ := Operation.exists_edits_of_tableEffect? rfl effect
    cases edits with
    | setPrimaryKey free unused spelled =>
      rw [Table.spellings_eq_ok_iff] at spelled
      exact ⟨_, rfl, describes.withPrimaryKey none spelled, rfl, rfl⟩

/-- The steps for the unique keys. -/
theorem exists_describesKeys_of_uniqueKeys
    (describes : { spec with uniqueKeys := [] }.DescribesKeys base.caseMode table)
    {left : Option Table}
    (after : Fixture.tableAfter? base (spec.uniqueKeys.map fun key =>
      .ok (.addUniqueKey schema spec.name key)) (some table) = some left) :
    ∃ keyed, left = some keyed ∧ spec.DescribesKeys base.caseMode keyed ∧
      keyed.foreignKeys = table.foreignKeys ∧ keyed.indexes = table.indexes := by
  obtain ⟨added, described, rfl⟩ := Fixture.exists_forall₂_of_tableAfter?
    (fun table added => { table with uniqueKeys := table.uniqueKeys ++ added })
    (fun table (written stored : Key) => stored.name = written.name ∧
      List.Forall₂ (table.Spells base.caseMode) written.columns stored.columns)
    (fun table => by simp) (fun table added further => by simp)
    (fun _ _ _ _ same => same)
    (by
      intro key operation old left given effect
      cases given
      obtain ⟨_, _, keyed, rfl, edits⟩ := Operation.exists_edits_of_tableEffect? rfl effect
      cases edits with
      | @addUniqueKey _ _ columns unused spelled =>
        rw [Table.spellings_eq_ok_iff] at spelled
        exact ⟨⟨key.name, columns⟩, ⟨rfl, spelled⟩, rfl⟩)
    after
  have none : table.uniqueKeys = [] := List.forall₂_nil_left_iff.mp describes.uniqueKeys
  rw [none, List.nil_append]
  exact ⟨_, rfl, { describes with uniqueKeys := described }, rfl, rfl⟩

/-- What the first part of the script leaves of a table. -/
theorem exists_describesKeys_of_creation {left : Option Table}
    (after : Fixture.tableAfter? base (spec.creation schema) none = some left) :
    ∃ table, left = some table ∧ spec.DescribesKeys base.caseMode table ∧
      table.foreignKeys = [] ∧ table.indexes = [] := by
  rw [creation, List.cons_append] at after
  cases made : spec.table with
  | error error =>
    rw [made] at after
    cases after
  | ok bare =>
    rw [made] at after
    obtain ⟨next, effect, after⟩ := Option.bind_eq_some_iff.mp after
    cases effect
    obtain ⟨describes, noForeignKeys, noIndexes⟩ := describesKeys_of_table made
    rw [Fixture.tableAfter?_append, Option.bind_eq_some_iff] at after
    obtain ⟨middle, keyed, after⟩ := after
    obtain ⟨table, rfl, describes, foreignKeys, indexes⟩ :=
      exists_describesKeys_of_key describes keyed
    obtain ⟨table', rfl, describes, foreignKeys', indexes'⟩ :=
      exists_describesKeys_of_uniqueKeys describes after
    exact ⟨table', rfl, describes, foreignKeys'.trans (foreignKeys.trans noForeignKeys),
      indexes'.trans (indexes.trans noIndexes)⟩

end TableSpec

theorem ForeignKeySpec.foreignKey_eq_ok {spec : ForeignKeySpec} {fk : ForeignKey}
    (made : spec.foreignKey = .ok fk) :
    fk.name = spec.name ∧ fk.columns = spec.columns ∧ fk.parentSchema = spec.parentSchema ∧
      fk.parentTable = spec.parentTable ∧ fk.parentColumns = spec.parentColumns ∧
      StandsFor ReferentialAction.texts .restrict spec.onDelete fk.onDelete ∧
      StandsFor ReferentialAction.texts .restrict spec.onUpdate fk.onUpdate := by
  obtain ⟨onDelete, read, rest⟩ := bind_eq_ok_iff.mp made
  obtain ⟨onUpdate, read', rest⟩ := bind_eq_ok_iff.mp rest
  cases rest
  exact ⟨rfl, rfl, rfl, rfl, rfl, ReferentialAction.standsFor_of_ofSpec read,
    ReferentialAction.standsFor_of_ofSpec read'⟩

/-- A foreign key that is resolved in the catalog and has the spellings of its child is the
described one. -/
theorem ForeignKeySpec.describes_of_resolved {catalog : Catalog} {schema : String} {child : Table}
    {spec : ForeignKeySpec} {fk resolved : ForeignKey} {columns : List String}
    (made : spec.foreignKey = .ok fk)
    (resolution : catalog.resolveForeignKey schema fk = .ok resolved)
    (spelled : List.Forall₂ (child.Spells catalog.caseMode) resolved.columns columns) :
    spec.Describes catalog schema child { resolved with columns } := by
  obtain ⟨name, childColumns, parentSchema, parentTable, parentColumns, onDelete, onUpdate⟩ :=
    foreignKey_eq_ok made
  obtain ⟨-, owner, parent, stored, key, located, found, spelled', covered, rfl⟩ :=
    Catalog.resolveForeignKey_eq_ok resolution
  rw [Table.spellings_eq_ok_iff, parentColumns] at spelled'
  rw [parentSchema] at located
  rw [parentTable] at found
  rw [childColumns] at spelled
  exact ⟨name, spelled, ⟨owner, parent, located, found, rfl, rfl, spelled', key, covered, rfl⟩,
    onDelete, onUpdate⟩

/-- The directions of the columns are those that the exact names have in the description. -/
theorem IndexSpec.describes_of_respell {mode : CaseMode} {table : Table} {spec : IndexSpec}
    {stored : Index} {name : String} (made : table.respell mode (spec.index name) = .ok stored) :
    spec.Describes mode table stored := by
  obtain ⟨columns, spelled, rfl⟩ := Table.respell_eq_ok_iff.mp made
  refine ⟨rfl, rfl, ?_, rfl, rfl, rfl, ?_⟩
  · simp [IndexSpec.index]
  · rw [IndexSpec.index, List.forall₂_map_left_iff] at spelled
    refine spelled.imp fun written column here => ⟨here.1, ?_⟩
    rw [here.2]
    simp

/-- Of the child, only the columns count. -/
theorem ForeignKeySpec.Describes.of_columns {catalog : Catalog} {schema : String}
    {child child' : Table} {spec : ForeignKeySpec} {fk : ForeignKey}
    (describes : spec.Describes catalog schema child fk)
    (columns : child'.columns = child.columns) :
    spec.Describes catalog schema child' fk where
  name := describes.name
  columns := describes.columns.imp fun _ _ spells => spells.of_columnNames (by rw [columns])
  parent := describes.parent
  onDelete := describes.onDelete
  onUpdate := describes.onUpdate

/-- Of the table, only the name and the columns count. -/
theorem IndexSpec.Describes.of_columns {mode : CaseMode} {table table' : Table} {spec : IndexSpec}
    {index : Index} (describes : spec.Describes mode table index) (name : table'.name = table.name)
    (columns : table'.columns = table.columns) : spec.Describes mode table' index where
  name := describes.name
  owner := describes.owner.trans name.symm
  kind := describes.kind
  unique := describes.unique
  systemGenerated := describes.systemGenerated
  statistics := describes.statistics
  columns := describes.columns.imp fun _ _ here =>
    ⟨here.1.of_columnNames (by rw [columns]), here.2⟩

namespace TableSpec

variable {spec : TableSpec} {base catalog : Catalog} {schema : String} {old : Table}
  {left : Option Table}

theorem exists_forall₂_of_foreignKeys (sameMode : catalog.caseMode = base.caseMode)
    (resolves : catalog.resolveForeignKey = base.resolveForeignKey)
    (after : Fixture.tableAfter? base (spec.foreignKeys.map fun fk =>
      fk.foreignKey.map (.addForeignKey schema spec.name)) (some old) = some left) :
    ∃ added, List.Forall₂ (ForeignKeySpec.Describes catalog schema old) spec.foreignKeys added ∧
      left = some { old with foreignKeys := old.foreignKeys ++ added } := by
  refine Fixture.exists_forall₂_of_tableAfter?
    (fun table added => { table with foreignKeys := table.foreignKeys ++ added }) _
    (fun table => by simp) (fun table added further => by simp) ?_ ?_ after
  · intro table added described fk describes
    exact describes.of_columns rfl
  · intro described operation old left given effect
    cases made : described.foreignKey with
    | error error =>
      rw [made] at given
      cases given
    | ok fk =>
      rw [made] at given
      cases given
      obtain ⟨_, _, new, rfl, edits⟩ := Operation.exists_edits_of_tableEffect? rfl effect
      cases edits with
      | addForeignKey resolution unused spelled =>
        rw [Table.spellings_eq_ok_iff, ← sameMode] at spelled
        rw [← resolves] at resolution
        exact ⟨_, ForeignKeySpec.describes_of_resolved made resolution spelled, rfl⟩

theorem exists_forall₂_of_indexes
    (after : Fixture.tableAfter? base (spec.indexes.map fun index =>
      .ok (.addIndex schema (index.index spec.name))) (some old) = some left) :
    ∃ added, List.Forall₂ (IndexSpec.Describes base.caseMode old) spec.indexes added ∧
      left = some { old with indexes := old.indexes ++ added } := by
  refine Fixture.exists_forall₂_of_tableAfter?
    (fun table added => { table with indexes := table.indexes ++ added }) _
    (fun table => by simp) (fun table added further => by simp) ?_ ?_ after
  · intro table added described index describes
    exact describes.of_columns rfl rfl
  · intro described operation old left given effect
    cases given
    obtain ⟨_, _, new, rfl, edits⟩ := Operation.exists_edits_of_tableEffect? rfl effect
    cases edits with
    | addIndex named unused respelled =>
      exact ⟨_, IndexSpec.describes_of_respell respelled, rfl⟩

/-- What the second part of the script leaves of a table, said of a catalog in which foreign keys
are resolved as in the one where the part starts. -/
theorem exists_describes_of_references (sameMode : catalog.caseMode = base.caseMode)
    (resolves : catalog.resolveForeignKey = base.resolveForeignKey)
    (describes : spec.DescribesKeys base.caseMode old)
    (noForeignKeys : old.foreignKeys = []) (noIndexes : old.indexes = [])
    (after : Fixture.tableAfter? base (spec.references schema) (some old) = some left) :
    ∃ table, left = some table ∧ spec.Describes catalog schema table := by
  rw [references, Fixture.tableAfter?_append, Option.bind_eq_some_iff] at after
  obtain ⟨middle, referred, after⟩ := after
  obtain ⟨foreignKeys, described, rfl⟩ :=
    exists_forall₂_of_foreignKeys sameMode resolves referred
  obtain ⟨indexes, described', rfl⟩ := exists_forall₂_of_indexes after
  rw [noForeignKeys, noIndexes]
  rw [← sameMode] at describes described'
  refine ⟨_, rfl, { describes with }, ?_, ?_⟩
  · exact described.imp fun _ _ here => here.of_columns rfl
  · exact described'.imp fun _ _ here => here.of_columns rfl rfl

end TableSpec

end CatalogViews
