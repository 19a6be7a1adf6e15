import CatalogViews.Metadata.Columns
import CatalogViews.Metadata.Tables
import CatalogViews.Proofs.ExactViews
import CatalogViews.Proofs.PatternLanguage
import CatalogViews.Proofs.StableSort
import Mathlib.Data.Prod.Basic

/-!
# What the listing views list

The views on tables and on columns go through the same entries: the visible tables and the synonyms
with a target, in the selected schemas, under names that match. `Metadata.listed` are these entries
as the views come by them. In a reached catalog no two of them have the same name in schemas of the
same name, so the rows for different entries differ where the views sort.

For the tables this gives the whole answer. `Metadata.Lists` says without the code which entries are
due, and `Entry.HasType` under which type; every one of them has one row, the rows increase
strictly, and there is nothing else. The requested types are looked up in a sorted list by halving,
which finds all of them because the list is sorted (`increasing_tableTypes`).
-/

namespace CatalogViews

/-- Answers that have the names of what they are given, so far as there are any. -/
theorem map_filterMap_sublist {α β γ : Type} {f : α → Option β} {nameOf : β → γ} {name : α → γ}
    (same : ∀ a b, f a = some b → nameOf b = name a) (l : List α) :
    ((l.filterMap f).map nameOf).Sublist (l.map name) := by
  induction l with
  | nil => exact List.nil_sublist _
  | cons a l ih =>
    cases answer : f a with
    | none =>
      rw [List.filterMap_cons_none answer]
      exact ih.cons _
    | some b =>
      rw [List.filterMap_cons_some answer, List.map_cons, List.map_cons, same a b answer]
      exact ih.cons_cons _

/-- The table type of an entry: that of its kind if it is a table, and one for all synonyms. -/
inductive Entry.HasType : Entry → String → Prop
  | baseTable {table : Table} : table.kind = .baseTable → HasType (.table table) "BASE TABLE"
  | globalTemporary {table : Table} :
      table.kind = .globalTemporary → HasType (.table table) "GLOBAL TEMPORARY"
  | localTemporary {table : Table} :
      table.kind = .localTemporary → HasType (.table table) "LOCAL TEMPORARY"
  | view {table : Table} : table.kind = .view → HasType (.table table) "VIEW"
  | synonym {synonym : Synonym} {target : Table} : HasType (.synonym synonym target) "SYNONYM"

namespace Catalog

/-- A schema has a table, or a synonym for a table that exists. -/
inductive Has (catalog : Catalog) (schema : Schema) : Entry → Prop
  | table {table : Table} : table ∈ schema.tables.values → Has catalog schema (.table table)
  | synonym {synonym : Synonym} {owner : Schema} {target : Table} :
      synonym ∈ schema.synonyms.values → owner ∈ catalog.schemas.values →
      catalog.sameIdentifier owner.name synonym.targetSchema = true →
      target ∈ owner.tables.values →
      catalog.sameIdentifier target.name synonym.targetTable = true →
      Has catalog schema (.synonym synonym target)

variable {catalog : Catalog} {schema : Schema} {pattern : Option LikePattern} {entry : Entry}

theorem mem_schemasLike_iff (h : catalog.WellNamed) :
    schema ∈ catalog.schemasLike pattern ↔ schema ∈ catalog.schemas.values ∧
      ∀ p ∈ pattern, if p.source = "" then schema.name = mainSchemaName
        else p.isMatch schema.name = true := by
  cases pattern with
  | none => simp [schemasLike]
  | some p =>
    by_cases empty : p.source = ""
    · simp [schemasLike, empty, mainSchema?, h.find?_schemas]
    · simp [schemasLike, empty]

theorem nodup_schemasLike_names (h : catalog.WellNamed) :
    ((catalog.schemasLike pattern).map (·.name)).Nodup := by
  have all : (catalog.schemas.values.map (·.name)).Nodup := Keyed.nodup_map_values h.declaredNames
  cases pattern with
  | none => exact all
  | some p =>
    rw [schemasLike]
    split
    · cases catalog.mainSchema? <;> simp
    · exact (List.filter_sublist.map _).nodup all

theorem target?_table_iff (h : catalog.WellNamed) {synonym : Synonym} {target : Table} :
    (catalog.target? synonym).map (·.table) = some target ↔
      ∃ owner ∈ catalog.schemas.values,
        catalog.sameIdentifier owner.name synonym.targetSchema = true ∧
        target ∈ owner.tables.values ∧
        catalog.sameIdentifier target.name synonym.targetTable = true := by
  have found (owner : Schema) (listed : owner ∈ catalog.schemas.values) {table : Table} :
      owner.table? catalog.caseMode synonym.targetTable = some table ↔
        table ∈ owner.tables.values ∧
          catalog.caseMode.key table.name = catalog.caseMode.key synonym.targetTable :=
    Keyed.find?_eq_some_iff_mem_values (h.schema_wellNamed listed).tables
  simp only [sameIdentifier, CaseMode.same_iff]
  constructor
  · intro targeted
    obtain ⟨located, resolved, rfl⟩ := Option.map_eq_some_iff.mp targeted
    obtain ⟨owner, named, rest⟩ := Option.bind_eq_some_iff.mp resolved
    obtain ⟨table, here, made⟩ := Option.bind_eq_some_iff.mp rest
    cases made
    obtain ⟨listed, sameSchema⟩ := h.schema?_eq_some_iff.mp named
    exact ⟨owner, listed, sameSchema, (found owner listed).mp here⟩
  · intro ⟨owner, listed, sameSchema, owned⟩
    have named := h.schema?_eq_some_iff.mpr ⟨listed, sameSchema⟩
    have here := (found owner listed).mpr owned
    simp [target?, named, here]

theorem mem_entries_iff (h : catalog.WellNamed) :
    entry ∈ catalog.entries schema pattern ↔
      catalog.Has schema entry ∧ LikePattern.accepts pattern entry.name = true := by
  simp only [entries, List.mem_append, List.mem_map, List.mem_filterMap, List.mem_filter]
  constructor
  · intro member
    rcases member with ⟨table, ⟨owned, accepted⟩, rfl⟩ | ⟨synonym, ⟨owned, accepted⟩, made⟩
    · exact ⟨.table owned, accepted⟩
    · obtain ⟨located, targeted, rfl⟩ := Option.map_eq_some_iff.mp made
      have target : (catalog.target? synonym).map (·.table) = some located.table := by
        rw [targeted, Option.map_some]
      obtain ⟨owner, listed, sameSchema, targetOwned, sameTable⟩ :=
        (target?_table_iff h).mp target
      exact ⟨.synonym owned listed sameSchema targetOwned sameTable, accepted⟩
  · intro ⟨has, accepted⟩
    cases has with
    | table owned => exact .inl ⟨_, ⟨owned, accepted⟩, rfl⟩
    | synonym owned listed sameSchema targetOwned sameTable =>
      have target := (target?_table_iff h).mpr ⟨_, listed, sameSchema, targetOwned, sameTable⟩
      obtain ⟨located, targeted, rfl⟩ := Option.map_eq_some_iff.mp target
      refine .inr ⟨_, ⟨owned, accepted⟩, ?_⟩
      rw [targeted, Option.map_some]

/-- What is listed goes by its own name. -/
theorem map_name_entries_sublist (catalog : Catalog) (schema : Schema)
    (pattern : Option LikePattern) :
    ((catalog.entries schema pattern).map (·.name)).Sublist
      (schema.tables.values.map (·.name) ++ schema.synonyms.values.map (·.name)) := by
  rw [entries, List.map_append]
  apply List.Sublist.append
  · rw [List.map_map]
    exact List.filter_sublist.map _
  · have own : ∀ synonym entry,
        ((catalog.target? synonym).map fun found => Entry.synonym synonym found.table) =
          some entry → entry.name = synonym.name := by
      intro synonym entry made
      obtain ⟨located, -, rfl⟩ := Option.map_eq_some_iff.mp made
      rfl
    exact (map_filterMap_sublist own _).trans (List.filter_sublist.map _)

/-- Tables and synonyms share one namespace. -/
theorem distinguishes_entries (h : catalog.WellNamed) (listed : schema ∈ catalog.schemas.values) :
    catalog.caseMode.Distinguishes ((catalog.entries schema pattern).map (·.name)) := by
  rw [CaseMode.distinguishes_iff]
  exact ((catalog.map_name_entries_sublist schema pattern).map _).nodup
    (h.schema_wellNamed listed).nodup_objectKeys

theorem nodup_entries_names (h : catalog.WellNamed) (listed : schema ∈ catalog.schemas.values) :
    ((catalog.entries schema pattern).map (·.name)).Nodup :=
  (CaseMode.distinguishes_iff.mp (distinguishes_entries h listed)).of_map

end Catalog

namespace Metadata

variable {m : Metadata} {schemaLike tableLike : Option LikePattern}

/-- The entries that are listed, with their schemas. -/
def listed (m : Metadata) (schemaLike tableLike : Option LikePattern) : List (Schema × Entry) :=
  (m.catalog.schemasLike schemaLike).flatMap fun schema =>
    ((m.catalog.entries schema tableLike).filter (·.isListed)).map (schema, ·)

theorem mem_listed_iff (h : m.catalog.WellNamed) {schema : Schema} {entry : Entry} :
    (schema, entry) ∈ m.listed schemaLike tableLike ↔
      schema ∈ m.catalog.schemasLike schemaLike ∧ m.catalog.Has schema entry ∧
        LikePattern.accepts tableLike entry.name = true ∧ entry.isListed = true := by
  simp only [listed, List.mem_flatMap, List.mem_map, List.mem_filter, Catalog.mem_entries_iff h]
  constructor
  · intro ⟨_, selected, _, ⟨⟨has, accepted⟩, visible⟩, made⟩
    cases made
    exact ⟨selected, has, accepted, visible⟩
  · intro ⟨selected, has, accepted, visible⟩
    exact ⟨schema, selected, entry, ⟨⟨has, accepted⟩, visible⟩, rfl⟩

/-- No two listed entries have the same name in schemas of the same name. -/
theorem nodup_listed_names (h : m.catalog.WellNamed) :
    ((m.listed schemaLike tableLike).map fun p => (p.1.name, p.2.name)).Nodup := by
  rw [listed, List.map_flatMap, List.nodup_flatMap]
  constructor
  · intro schema selected
    have names : ((m.catalog.entries schema tableLike).map (·.name)).Nodup :=
      Catalog.nodup_entries_names h ((Catalog.mem_schemasLike_iff h).mp selected).1
    have visible := (List.filter_sublist (p := Entry.isListed).map Entry.name).nodup names
    rw [List.map_map]
    have pairs := visible.map (Prod.mk_right_injective schema.name)
    rw [List.map_map] at pairs
    exact pairs
  · apply (List.pairwise_map.mp (Catalog.nodup_schemasLike_names h)).imp
    intro schema other differ pair first second
    simp only [List.map_map, List.mem_map] at first second
    obtain ⟨_, -, rfl⟩ := first
    obtain ⟨_, -, same⟩ := second
    exact differ (congrArg Prod.fst same).symm

theorem flatMap_entryColumnRows {columnLike : Option LikePattern} :
    ((m.catalog.schemasLike schemaLike).flatMap fun schema =>
        ((m.catalog.entries schema tableLike).filter (·.isListed)).flatMap
          (m.entryColumnRows columnLike schema)) =
      (m.listed schemaLike tableLike).flatMap fun p => m.entryColumnRows columnLike p.1 p.2 := by
  rw [listed, List.flatMap_assoc]
  simp only [List.flatMap_map]

/-- A name matches a pattern text under the settings of the views. -/
def Matches (m : Metadata) (source name : String) : Prop :=
  ∃ elements, LikePattern.Reads m.settings.searchEscape source.toList elements ∧
    LikePattern.Cuts (m.catalog.caseMode == .insensitive) elements name.toList

/-- A compiled pattern stands for its text. -/
structure CompilesTo (m : Metadata) (source : String) (pattern : LikePattern) : Prop where
  source_eq : pattern.source = source
  isMatch_iff : ∀ name, pattern.isMatch name = true ↔ m.Matches source name

theorem compilesTo_of_like? {argument : Option String} {pattern : Option LikePattern}
    (made : m.like? argument = .ok pattern) : Option.Rel m.CompilesTo argument pattern := by
  cases argument with
  | none =>
    cases made
    exact .none
  | some source =>
    cases compiled : LikePattern.compile? source m.settings.searchEscape
        (m.catalog.caseMode == .insensitive) with
    | none => simp [like?, compiled] at made
    | some found =>
      have same : some found = pattern := by simpa [like?, compiled] using made
      rw [← same]
      refine .some ⟨?_, fun name => ?_⟩
      · obtain ⟨tokens, -, rfl⟩ := Option.map_eq_some_iff.mp compiled
        rfl
      · obtain ⟨elements, read, same⟩ := LikePattern.reads_of_compile? compiled
        rw [same, Matches]
        simp only [read, exists_eq_left]

theorem like?_of_reads {argument : Option String}
    (reads : ∀ source ∈ argument, ¬LikePattern.Dangles m.settings.searchEscape source.toList) :
    ∃ pattern, m.like? argument = .ok pattern ∧ Option.Rel m.CompilesTo argument pattern := by
  suffices made : ∃ pattern, m.like? argument = .ok pattern by
    obtain ⟨pattern, made⟩ := made
    exact ⟨pattern, made, compilesTo_of_like? made⟩
  cases argument with
  | none => exact ⟨none, rfl⟩
  | some source =>
    cases compiled : LikePattern.compile? source m.settings.searchEscape
        (m.catalog.caseMode == .insensitive) with
    | none => exact absurd (LikePattern.compile?_eq_none_iff.mp compiled) (reads source rfl)
    | some pattern => exact ⟨some pattern, by simp [like?, compiled]⟩

theorem accepts_iff {argument : Option String} {pattern : Option LikePattern}
    (compiled : Option.Rel m.CompilesTo argument pattern) (name : String) :
    LikePattern.accepts pattern name = true ↔ ∀ source ∈ argument, m.Matches source name := by
  cases compiled with
  | none => simp [LikePattern.accepts]
  | some same => simp [LikePattern.accepts, same.isMatch_iff]

/-- A schema argument selects a schema: the empty one the main schema, any other those it
matches. -/
def SelectsSchemas (m : Metadata) (argument : Option String) (schema : Schema) : Prop :=
  ∀ source ∈ argument,
    if source = "" then schema.name = mainSchemaName else m.Matches source schema.name

theorem mem_schemasLike_iff_selects (h : m.catalog.WellNamed) {argument : Option String}
    {pattern : Option LikePattern} (compiled : Option.Rel m.CompilesTo argument pattern)
    {schema : Schema} :
    schema ∈ m.catalog.schemasLike pattern ↔
      schema ∈ m.catalog.schemas.values ∧ m.SelectsSchemas argument schema := by
  rw [Catalog.mem_schemasLike_iff h]
  cases compiled with
  | none => simp [SelectsSchemas]
  | some same => simp [SelectsSchemas, same.source_eq, same.isMatch_iff]

theorem isSelectedBy_iff {argument : Option String} :
    m.catalog.isSelectedBy argument = true ↔
      ∀ name ∈ argument, name = "" ∨ m.catalog.sameIdentifier name m.catalog.name = true := by
  cases argument <;> simp [Catalog.isSelectedBy]

theorem increasing_tableTypes : tableTypes.Pairwise (Text.compareText · · = .lt) := by
  decide

theorem search?_tableTypes_eq_none_iff {requested : String} :
    Text.search? tableTypes requested = none ↔ requested ∉ tableTypes := by
  simp [Option.eq_none_iff_forall_ne_some, Text.search?_eq_some_iff increasing_tableTypes,
    List.mem_iff_getElem?]

/-- A requested type is a table type or the alias of the first one. -/
theorem acceptedType?_eq_some_iff {requested type : String} :
    acceptedType? requested = some type ↔ type ∈ tableTypes ∧
      (requested = type ∨ type = "BASE TABLE" ∧ requested = "TABLE") := by
  unfold acceptedType?
  split
  · rename_i index found
    rw [Text.search?_eq_some_iff increasing_tableTypes] at found
    have known : requested ∈ tableTypes := List.mem_of_getElem? found
    rw [found, Option.some.injEq]
    constructor
    · rintro rfl
      exact ⟨known, .inl rfl⟩
    · rintro ⟨-, rfl | ⟨-, rfl⟩⟩
      · rfl
      · exact absurd known (by decide)
  · rename_i missed
    rw [search?_tableTypes_eq_none_iff] at missed
    constructor
    · intro answer
      obtain ⟨other, first⟩ := Option.ite_none_right_eq_some.mp answer
      cases first
      exact ⟨by decide, .inr ⟨rfl, beq_iff_eq.mp other⟩⟩
    · rintro ⟨known, rfl | ⟨rfl, rfl⟩⟩
      · exact absurd known missed
      · rfl

theorem mem_acceptedTypes_iff {requested : List String} {type : String} :
    type ∈ acceptedTypes requested ↔ type ∈ tableTypes ∧
      (type ∈ requested ∨ type = "BASE TABLE" ∧ "TABLE" ∈ requested) := by
  rw [acceptedTypes, List.mem_filterMap]
  simp only [acceptedType?_eq_some_iff]
  constructor
  · rintro ⟨given, member, known, rfl | ⟨rfl, rfl⟩⟩
    · exact ⟨known, .inl member⟩
    · exact ⟨known, .inr ⟨rfl, member⟩⟩
  · rintro ⟨known, member | ⟨rfl, member⟩⟩
    · exact ⟨type, member, known, .inl rfl⟩
    · exact ⟨"TABLE", member, known, .inr ⟨rfl, rfl⟩⟩

theorem hasType_entryType (entry : Entry) : entry.HasType (entryType entry) := by
  cases entry with
  | synonym synonym target => exact .synonym
  | table table =>
    rw [entryType]
    cases kind : table.kind with
    | baseTable => exact .baseTable kind
    | globalTemporary => exact .globalTemporary kind
    | localTemporary => exact .localTemporary kind
    | view => exact .view kind

theorem mem_tableTypes_of_hasType {entry : Entry} {type : String} (typed : entry.HasType type) :
    type ∈ tableTypes := by
  cases typed <;> decide

theorem accepted_iff {types : Option (List String)} {entry : Entry} :
    (types.map acceptedTypes).all (·.contains (entryType entry)) = true ↔
      ∀ requested ∈ types,
        entryType entry ∈ requested ∨ entryType entry = "BASE TABLE" ∧ "TABLE" ∈ requested := by
  cases types with
  | none => simp
  | some requested =>
    have known := mem_tableTypes_of_hasType (hasType_entryType entry)
    simp [mem_acceptedTypes_iff, known]

/-- The listed entries of accepted types. -/
def tableEntries (m : Metadata) (schemaLike tableLike : Option LikePattern)
    (accepted : Option (List String)) : List (Schema × Entry) :=
  (m.listed schemaLike tableLike).filter fun p => accepted.all (·.contains (entryType p.2))

theorem tableEntries_none :
    m.tableEntries schemaLike tableLike none = m.listed schemaLike tableLike := by
  simp [tableEntries]

variable {accepted : Option (List String)}

theorem flatMap_tableRows :
    (m.catalog.schemasLike schemaLike).flatMap (m.tableRows tableLike accepted) =
      (m.tableEntries schemaLike tableLike accepted).map fun p => m.tableRow p.1 p.2 := by
  rw [tableEntries, listed, List.filter_flatMap, List.map_flatMap]
  apply List.flatMap_congr
  intro schema _
  simp only [tableRows, List.filter_map, List.map_map, List.filter_filter, Function.comp_def,
    Bool.and_comm]

theorem tables_eq_ok {catalog schema table : Option String} (types : Option (List String))
    (opened : m.session.closed = false) (selected : m.catalog.isSelectedBy catalog = true)
    (schemaOk : m.like? schema = .ok schemaLike) (tableOk : m.like? table = .ok tableLike) :
    m.tables catalog schema table types =
      .ok ((ResultTable.mk tablesColumns ((m.tableEntries schemaLike tableLike
        (types.map acceptedTypes)).map fun p => m.tableRow p.1 p.2)).sortRows tablesOrder
          m.collation) := by
  rw [← flatMap_tableRows]
  unfold tables
  refine checked_eq_ok_iff.mpr ⟨opened, ?_⟩
  rw [if_pos selected]
  by_cases noTypes : types.map acceptedTypes = some []
  · have noRows : (m.catalog.schemasLike schemaLike).flatMap
        (m.tableRows tableLike (some [])) = [] := by
      simp [flatMap_tableRows, tableEntries]
    simp only [noTypes, beq_self_eq_true, if_true, noRows, ResultTable.sortRows, List.mergeSort_nil]
    rfl
  · have known : (types.map acceptedTypes == some []) = false := by simpa using noTypes
    simp only [known, schemaOk, tableOk]
    rfl

theorem nodup_tableEntries_names (h : m.catalog.WellNamed) :
    ((m.tableEntries schemaLike tableLike accepted).map fun p => (p.1.name, p.2.name)).Nodup :=
  (List.filter_sublist.map _).nodup (nodup_listed_names h)

/-- Rows for entries of different names differ where the view sorts. -/
theorem pairwise_tableRows (h : m.catalog.WellNamed) :
    ((m.tableEntries schemaLike tableLike accepted).map fun p => m.tableRow p.1 p.2).Pairwise
      fun a b => m.collation.compareRows tablesOrder a b ≠ .eq := by
  rw [List.pairwise_map]
  apply (List.pairwise_map.mp (nodup_tableEntries_names h)).imp
  intro p q differ same
  have sameSchema : p.1.name = q.1.name :=
    m.collation.text_eq_of_compareRows same 1 (by decide) rfl rfl
  have sameEntry : p.2.name = q.2.name :=
    m.collation.text_eq_of_compareRows same 2 (by decide) rfl rfl
  exact differ (Prod.ext sameSchema sameEntry)

/-- What makes an entry of a schema due in an answer about tables. -/
structure Lists (m : Metadata) (schema table : Option String) (types : Option (List String))
    (owner : Schema) (entry : Entry) : Prop where
  owner_mem : owner ∈ m.catalog.schemas.values
  owner_selected : m.SelectsSchemas schema owner
  has : m.catalog.Has owner entry
  name_matches : ∀ source ∈ table, m.Matches source entry.name
  visible : ∀ listed, entry = .table listed → listed.hidden = false
  type_accepted : ∀ requested ∈ types,
    entryType entry ∈ requested ∨ entryType entry = "BASE TABLE" ∧ "TABLE" ∈ requested

theorem isListed_iff {entry : Entry} :
    entry.isListed = true ↔ ∀ listed, entry = .table listed → listed.hidden = false := by
  cases entry <;> simp [Entry.isListed]

theorem lists_iff (h : m.catalog.WellNamed) {schema table : Option String}
    {types : Option (List String)} (schemaCompiled : Option.Rel m.CompilesTo schema schemaLike)
    (tableCompiled : Option.Rel m.CompilesTo table tableLike) {owner : Schema} {entry : Entry} :
    m.Lists schema table types owner entry ↔
      (owner, entry) ∈ m.tableEntries schemaLike tableLike (types.map acceptedTypes) := by
  rw [tableEntries, List.mem_filter, mem_listed_iff h,
    mem_schemasLike_iff_selects h schemaCompiled, accepts_iff tableCompiled, isListed_iff,
    accepted_iff]
  constructor
  · intro lists
    exact ⟨⟨⟨lists.owner_mem, lists.owner_selected⟩, lists.has, lists.name_matches, lists.visible⟩,
      lists.type_accepted⟩
  · intro ⟨⟨⟨mem, selected⟩, has, matched, visible⟩, accepted⟩
    exact ⟨mem, selected, has, matched, visible, accepted⟩

/-- An answer about tables of a reached catalog has one row for each entry that is due, and no
others, in strictly increasing order. -/
theorem tables_exact (reached : m.catalog.Reached fun _ _ => True)
    (catalog schema table : Option String) (types : Option (List String))
    (opened : m.session.closed = false)
    (matching : ∀ name ∈ catalog, name = "" ∨ m.catalog.sameIdentifier name m.catalog.name = true)
    (schemaReads : ∀ source ∈ schema,
      ¬LikePattern.Dangles m.settings.searchEscape source.toList)
    (tableReads : ∀ source ∈ table, ¬LikePattern.Dangles m.settings.searchEscape source.toList) :
    ∃ answer, m.tables catalog schema table types = .ok answer ∧ answer.columns = tablesColumns ∧
      (∃ listed : List (Schema × Entry), listed.Nodup ∧
        (∀ owner entry, (owner, entry) ∈ listed ↔ m.Lists schema table types owner entry) ∧
        (∀ p ∈ listed, p.2.HasType (entryType p.2)) ∧
        answer.rows = listed.map fun p =>
          [.varchar m.catalog.name, .varchar p.1.name, .varchar p.2.name,
            .varchar (entryType p.2), .ofText? p.2.definition.comment, .null, .null, .null,
            .null, .null]) ∧
      answer.rows.Pairwise fun a b => m.collation.compareRows
        (["TABLE_TYPE", "TABLE_CAT", "TABLE_SCHEM", "TABLE_NAME"].filterMap answer.columnIndex?)
        a b = .lt := by
  have h := reached.wellNamed
  obtain ⟨schemaLike, schemaOk, schemaCompiled⟩ := like?_of_reads schemaReads
  obtain ⟨tableLike, tableOk, tableCompiled⟩ := like?_of_reads tableReads
  have answered := tables_eq_ok types opened (isSelectedBy_iff.mpr matching) schemaOk
    tableOk
  refine ⟨_, answered, rfl, ?_, ResultTable.sortRows_increasing (pairwise_tableRows h)⟩
  let le (p q : Schema × Entry) : Bool :=
    m.collation.rowLE tablesOrder (m.tableRow p.1 p.2) (m.tableRow q.1 q.2)
  let due := m.tableEntries schemaLike tableLike (types.map acceptedTypes)
  have order : (due.mergeSort le).Perm due := due.mergeSort_perm le
  refine ⟨due.mergeSort le, order.nodup_iff.mpr (nodup_tableEntries_names h).of_map, ?_,
    fun p _ => hasType_entryType p.2, ?_⟩
  · intro owner entry
    rw [order.mem_iff, lists_iff h schemaCompiled tableCompiled]
  · have rows : (due.mergeSort le).map (fun p => m.tableRow p.1 p.2) =
        (due.map fun p => m.tableRow p.1 p.2).mergeSort (m.collation.rowLE tablesOrder) :=
      List.map_mergeSort fun _ _ _ _ => rfl
    exact rows.symm

/-- A synonym for a hidden table is listed, the hidden table and a synonym without its target are
not. Each kind is listed under a type of its own, and only if this type is requested. -/
theorem tables_exact_of_hidden_target :
    let history : List Operation :=
      [.createSchema "S", .createTable { name := "T", columns := [] },
        .createTable { name := "V", kind := .view, columns := [] },
        .createTable { name := "H", hidden := true, comment := some "internal", columns := [] },
        .createTable { name := "G", kind := .globalTemporary, columns := [] },
        .createTable { name := "L", kind := .localTemporary, columns := [] },
        .createTable { name := "D", columns := [] },
        .createSynonym "S" ⟨"X", "PUBLIC", "T"⟩, .createSynonym "S" ⟨"Y", "PUBLIC", "H"⟩,
        .createSynonym "S" ⟨"Z", "PUBLIC", "D"⟩, .dropTable "D"]
    let m : Metadata := .ofCatalog ((Catalog.started "C" .insensitive).after history) {} {}
    let row (schema name type : String) (comment : Value) : Row :=
      [.varchar "C", .varchar schema, .varchar name, .varchar type, comment, .null, .null, .null,
        .null, .null]
    let types : List String := ["TABLE", "INDEX", "SYNONYM", "VIEW", "LOCAL TEMPORARY"]
    ∃ answer, m.tables (some "c") (some "%") (some "_") (some types) = .ok answer ∧
      answer.rows.Perm
        [row "PUBLIC" "T" "BASE TABLE" .null, row "PUBLIC" "V" "VIEW" .null,
          row "PUBLIC" "L" "LOCAL TEMPORARY" .null, row "S" "X" "SYNONYM" .null,
          row "S" "Y" "SYNONYM" (.varchar "internal")] ∧
      answer.rows.Pairwise fun a b => m.collation.compareRows
        (["TABLE_TYPE", "TABLE_CAT", "TABLE_SCHEM", "TABLE_NAME"].filterMap answer.columnIndex?)
        a b = .lt := by
  intro history m row types
  have reached : m.catalog.Reached fun _ _ => True := by
    refine (Catalog.Reached.start "C" .insensitive).after history ?_
    simp [history, Operation.keepsCaseMode]
  have matching : ∀ name ∈ some "c",
      name = "" ∨ m.catalog.sameIdentifier name m.catalog.name = true := by decide +kernel
  have reads (source : String) (read : (LikePattern.compile? source '\\' true).isSome = true) :
      ¬LikePattern.Dangles '\\' source.toList := by
    intro dangles
    rw [LikePattern.compile?_eq_none_iff.mpr dangles] at read
    cases read
  have schemaReads := reads "%" (by decide +kernel)
  have tableReads := reads "_" (by decide +kernel)
  obtain ⟨answer, answered, -, -, increasing⟩ := tables_exact reached (some "c") (some "%")
    (some "_") (some types) rfl matching
    (fun _ given => Option.some.inj given ▸ schemaReads)
    (fun _ given => Option.some.inj given ▸ tableReads)
  refine ⟨answer, answered, ?_, increasing⟩
  rw [tables_eq_ok _ rfl (isSelectedBy_iff.mpr matching) rfl rfl] at answered
  cases answered
  rw [ResultTable.sortRows]
  refine (List.mergeSort_perm _ _).trans (List.Perm.of_eq ?_)
  decide +kernel

end Metadata

end CatalogViews
