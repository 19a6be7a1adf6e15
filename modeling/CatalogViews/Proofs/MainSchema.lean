import CatalogViews.Proofs.NameUniqueness

/-!
# The main schema and the current schema

A catalog has its main schema, every schema is kept under its declared name, and the current schema
is one of those that it has. This is `Catalog.Anchored`, and unlike the uniqueness of names it holds
of every history, however often the case mode is changed.

After a change of the case mode the keys of several schemas can be the same identifier. Which of
them a name then means depends on the order in which the schemas are enumerated, and this order is
not part of a catalog. So a history can lead to more than one catalog (`Catalog.Leads`): the schemas
may be enumerated anew before every operation.
-/

namespace CatalogViews.Catalog

/-- What a catalog knows about its schemas whatever the case mode. -/
structure Anchored (catalog : Catalog) : Prop where
  declared : ∀ key schema, catalog.schemas.find? key = some schema → schema.name = key
  main : mainSchemaName ∈ catalog.schemas.keys
  current : catalog.currentSchema ∈ catalog.schemas.keys

/-- The catalogs that a history can lead to. -/
inductive Leads (name : String) : List Operation → Catalog → Prop
  | start : Leads name [] (named name)
  | enumerate {history : List Operation} {catalog : Catalog} {schemas : Keyed Schema} :
      Leads name history catalog → schemas.entries.Perm catalog.schemas.entries →
      Leads name history { catalog with schemas }
  | perform {history : List Operation} {catalog : Catalog} (operation : Operation) :
      Leads name history catalog → Leads name (history ++ [operation]) (operation.applyTo catalog)

variable {catalog catalog' : Catalog} {name : String} {history : List Operation}

/-- One of these catalogs is the one where nothing is enumerated anew. -/
theorem Leads.after {earlier : List Operation} (led : Leads name earlier catalog)
    (history : List Operation) : Leads name (earlier ++ history) (catalog.after history) := by
  induction history generalizing earlier catalog with
  | nil =>
    rw [List.append_nil]
    exact led
  | cons operation history ih =>
    have further := ih (led.perform operation)
    rw [List.append_assoc, List.singleton_append] at further
    exact further

theorem keys_named (name : String) : (named name).schemas.keys = [mainSchemaName] := by
  rw [named, Keyed.keys_insertNew (Keyed.find?_empty mainSchemaName)]
  rfl

theorem anchored_named (name : String) : (named name).Anchored where
  declared := Keyed.forall_insertNew (fun _ _ found => nomatch found) rfl rfl
  main := by
    rw [keys_named]
    exact List.mem_singleton_self mainSchemaName
  current := by
    rw [keys_named]
    exact List.mem_singleton_self mainSchemaName

/-- Only a schema that is dropped goes. It is not the main schema, and if it is the current one the
main schema takes its place. -/
theorem Step.anchored {admits : Table → Prop} (step : Step admits catalog catalog')
    (h : catalog.Anchored) : catalog'.Anchored where
  declared := by
    refine step.forall_schemas ?_ ?_ h.declared
    · exact fun _ => rfl
    · intro key schema schema' step same
      exact step.name_eq.trans same
  main := by
    cases step with
    | createSchema free =>
      rw [Keyed.keys_insertNew (find?_schemas_of_schema?_eq_none free)]
      exact List.mem_append_left _ h.main
    | dropSchema other dropped =>
      rw [Keyed.keys_erase, List.mem_filter, bne_iff_ne]
      exact ⟨h.main, other.symm⟩
    | setCurrentSchema resolved => exact h.main
    | editSchema edited step =>
      rw [Keyed.keys_replace]
      exact h.main
    | setCollation collation => exact h.main
  current := by
    cases step with
    | createSchema free =>
      rw [Keyed.keys_insertNew (find?_schemas_of_schema?_eq_none free)]
      exact List.mem_append_left _ h.current
    | @dropSchema key _ other dropped =>
      simp only [Keyed.keys_erase, List.mem_filter, bne_iff_ne]
      by_cases here : catalog.currentSchema = key
      · rw [if_pos here]
        exact ⟨h.main, other.symm⟩
      · rw [if_neg here]
        exact ⟨h.current, here⟩
    | setCurrentSchema resolved => exact (schemaKey?_eq_some resolved).1
    | editSchema edited step =>
      rw [Keyed.keys_replace]
      exact h.current
    | setCollation collation => exact h.current

theorem Anchored.applyTo (h : catalog.Anchored) (operation : Operation) :
    (operation.applyTo catalog).Anchored := by
  cases keeps : operation.keepsCaseMode with
  | true =>
    have cases : operation.applyTo catalog = catalog ∨
        Step (fun _ => True) catalog (operation.applyTo catalog) :=
      Operation.applyTo_cases keeps (fun _ _ => trivial) catalog
    rcases cases with same | step
    · rw [same]
      exact h
    · exact step.anchored h
  | false =>
    cases operation <;> cases keeps
    exact ⟨h.declared, h.main, h.current⟩

theorem Anchored.of_perm (h : catalog.Anchored) {schemas : Keyed Schema}
    (perm : schemas.entries.Perm catalog.schemas.entries) :
    ({ catalog with schemas } : Catalog).Anchored where
  declared key schema found := by
    rw [Keyed.find?_eq_of_perm perm] at found
    exact h.declared key schema found
  main := (perm.map _).mem_iff.mpr h.main
  current := (perm.map _).mem_iff.mpr h.current

theorem Anchored.of_reordered (h : catalog.Anchored) (reordered : catalog.Reordered catalog')
    (current : catalog'.currentSchema = catalog.currentSchema) : catalog'.Anchored where
  declared key schema found := by
    obtain ⟨before, found', same⟩ := reordered.exists_of_find? found
    exact same.name.symm.trans (h.declared key before found')
  main := (Keyed.mem_keys_congr reordered.schemas mainSchemaName).mp h.main
  current := by
    rw [current]
    exact (Keyed.mem_keys_congr reordered.schemas catalog.currentSchema).mp h.current

theorem Leads.anchored (led : Leads name history catalog) : catalog.Anchored := by
  induction led with
  | start => exact anchored_named name
  | enumerate led perm ih => exact ih.of_perm perm
  | perform operation led ih => exact ih.applyTo operation

theorem Reached.anchored {admits : CaseMode → Table → Prop} (reached : catalog.Reached admits) :
    catalog.Anchored := by
  refine reached.induction ?_ ?_ ?_
  · intro name mode
    exact (anchored_named name).applyTo (.setCaseMode mode)
  · intro catalog catalog' step h
    exact step.anchored h
  · intro catalog other reordered current h
    exact h.of_reordered reordered current

/-- Whatever the history, there is a main schema of that name, every schema is kept under its
declared name, and the listed tables are those of a schema of the catalog. -/
theorem Leads.main_and_current (led : Leads name history catalog) :
    (∃ main, catalog.schemas.find? mainSchemaName = some main ∧ main.name = mainSchemaName ∧
      catalog.mainSchema? = some main) ∧
    (∀ key schema, catalog.schemas.find? key = some schema → schema.name = key) ∧
    catalog.currentSchema ∈ catalog.schemas.keys ∧
    ∃ current, catalog.schemas.find? catalog.currentSchema = some current ∧
      current.name = catalog.currentSchema ∧
      catalog.listTables = current.tables.values.map (·.name) := by
  have h := led.anchored
  obtain ⟨main, foundMain⟩ := Keyed.mem_keys_iff.mp h.main
  obtain ⟨current, foundCurrent⟩ := Keyed.mem_keys_iff.mp h.current
  refine ⟨⟨main, foundMain, h.declared _ _ foundMain, foundMain⟩, h.declared, h.current, current,
    foundCurrent, h.declared _ _ foundCurrent, ?_⟩
  rw [listTables, foundCurrent]

/-- Three schemas whose names are the same identifier once case does not matter. In the order in
which they were created a drop means the main schema and is refused; enumerated backwards it means
the current one. -/
theorem main_and_current_of_folding_names :
    let history : List Operation :=
      [.setCaseMode .sensitive, .createSchema "public", .createSchema "Public",
        .createTableIn "Public" { name := "T", columns := [] }, .setCurrentSchema "Public",
        .setCaseMode .insensitive]
    let catalog := (named "C").after history
    let drop : Operation := .dropSchema "pUBLIC" true
    let backwards : Keyed Schema :=
      ⟨catalog.schemas.entries.reverse, by
        rw [List.map_reverse, List.nodup_reverse]
        exact catalog.schemas.nodup⟩
    let dropped := drop.applyTo { catalog with schemas := backwards }
    drop.applyTo catalog = catalog ∧ catalog.currentSchema = "Public" ∧
      dropped.schemas.keys = ["public", "PUBLIC"] ∧ dropped.currentSchema = mainSchemaName ∧
      ∃ main, dropped.mainSchema? = some main ∧ main.name = mainSchemaName := by
  intro history catalog drop backwards dropped
  have led : Leads "C" (history ++ [drop]) dropped := by
    have perm : backwards.entries.Perm catalog.schemas.entries := List.reverse_perm _
    exact ((Leads.start.after history).enumerate perm).perform drop
  obtain ⟨main, -, named, found⟩ := led.main_and_current.1
  exact ⟨by decide +kernel, by decide +kernel, by decide +kernel, by decide +kernel, main, found,
    named⟩

end CatalogViews.Catalog
