import CatalogViews.Fixture.Script
import CatalogViews.Proofs.CatalogSteps
import Mathlib.Data.List.Nodup

/-!
# Runs of a script

A script is carried out operation by operation, up to the first that fails. What a run leaves behind
is hard to tell for any list of operations, but the script of a fixture is made of parts that are
about one place each: a part looks at what is kept at its place, fails or changes it, and leaves
every other place alone (`Fixture.ActsAt`). Such parts can be run one after the other.

When they are about different places, no part sees what another has done. The run succeeds exactly
when each part would succeed at the start, and every place is left as its own part leaves it
(`exists_run_flatMap`, `after_run_flatMap`). When each part needs its place to be free and takes it,
a run cannot succeed unless the places are different (`nodup_of_run_flatMap`).
-/

namespace CatalogViews.Fixture

variable {steps first second : List ScriptStep} {catalog catalog' : Catalog}

theorem run_cons_eq_ok_iff {step : ScriptStep} :
    run (step :: steps) catalog = .ok catalog' ↔ ∃ operation between,
      step = .ok operation ∧ operation.perform catalog = .ok () between ∧
        run steps between = .ok catalog' := by
  cases step with
  | error error => simp [run]
  | ok operation =>
    rw [run]
    cases performed : operation.perform catalog with
    | error error left => simp [performed]
    | ok answer between => simp [performed]

theorem run_append_eq_ok_iff :
    run (first ++ second) catalog = .ok catalog' ↔ ∃ between,
      run first catalog = .ok between ∧ run second between = .ok catalog' := by
  induction first generalizing catalog with
  | nil => simp [run]
  | cons step first ih =>
    simp only [List.cons_append, run_cons_eq_ok_iff, ih]
    constructor
    · intro ⟨operation, middle, given, performed, between, ran, ran'⟩
      exact ⟨between, ⟨operation, middle, given, performed, ran⟩, ran'⟩
    · intro ⟨between, ⟨operation, middle, given, performed, ran⟩, ran'⟩
      exact ⟨operation, middle, given, performed, between, ran, ran'⟩

theorem run_singleton_eq_ok_iff {operation : Operation} :
    run [.ok operation] catalog = .ok catalog' ↔ operation.perform catalog = .ok () catalog' := by
  rw [run_cons_eq_ok_iff]
  constructor
  · intro ⟨_, between, given, performed, ran⟩
    cases given
    cases ran
    exact performed
  · intro performed
    exact ⟨operation, catalog', rfl, performed, rfl⟩

/-- A run that succeeds is a history of operations of the script. -/
theorem exists_history_of_run (ran : run steps catalog = .ok catalog') :
    ∃ history, (∀ operation ∈ history, .ok operation ∈ steps) ∧
      catalog' = catalog.after history := by
  induction steps generalizing catalog with
  | nil =>
    cases ran
    exact ⟨[], nofun, rfl⟩
  | cons step steps ih =>
    obtain ⟨operation, between, rfl, performed, ran⟩ := run_cons_eq_ok_iff.mp ran
    obtain ⟨history, given, rfl⟩ := ih ran
    have left : operation.applyTo catalog = between := by rw [Operation.applyTo, performed]
    refine ⟨operation :: history, ?_, ?_⟩
    · rw [List.forall_mem_cons]
      exact ⟨List.mem_cons_self, fun later member => List.mem_cons_of_mem _ (given later member)⟩
    · rw [← left]
      rfl

/-- In the catalogs that satisfy a property, steps are about one place, and what they do there is
known: `effect` says of what was at the place whether the steps succeed and what is there then. -/
structure ActsAt {π ω : Type} (valid : Catalog → Prop) (look : Catalog → π → Option ω) (place : π)
    (steps : List ScriptStep) (effect : Option ω → Option (Option ω)) : Prop where
  runs : ∀ catalog left, valid catalog → effect (look catalog place) = some left →
    ∃ catalog', run steps catalog = .ok catalog'
  stays : ∀ catalog catalog', valid catalog → run steps catalog = .ok catalog' → valid catalog'
  changes : ∀ catalog catalog', valid catalog → run steps catalog = .ok catalog' →
    effect (look catalog place) = some (look catalog' place)
  keeps : ∀ catalog catalog', valid catalog → run steps catalog = .ok catalog' →
    ∀ other, other ≠ place → look catalog' other = look catalog other

section

variable {π ω : Type} {valid : Catalog → Prop} {look : Catalog → π → Option ω} {place : π}
  {effect effect' : Option ω → Option (Option ω)}

theorem ActsAt.nil : ActsAt valid look place [] some where
  runs catalog _ _ _ := ⟨catalog, rfl⟩
  stays _ _ h ran := by
    cases ran
    exact h
  changes _ _ _ ran := by
    cases ran
    rfl
  keeps _ _ _ ran _ _ := by
    cases ran
    rfl

theorem ActsAt.error (error : FixtureError) :
    ActsAt valid look place (.error error :: steps) fun _ => none where
  runs _ _ _ succeeds := nomatch succeeds
  stays _ _ _ ran := nomatch ran
  changes _ _ _ ran := nomatch ran
  keeps _ _ _ ran := nomatch ran

theorem ActsAt.append (acts : ActsAt valid look place first effect)
    (acts' : ActsAt valid look place second effect') :
    ActsAt valid look place (first ++ second) fun stored => (effect stored).bind effect' where
  runs catalog left h succeeds := by
    obtain ⟨middle, succeeds, succeeds'⟩ := Option.bind_eq_some_iff.mp succeeds
    obtain ⟨between, ran⟩ := acts.runs catalog middle h succeeds
    have changed := acts.changes catalog between h ran
    rw [succeeds, Option.some_inj] at changed
    rw [changed] at succeeds'
    obtain ⟨catalog', ran'⟩ := acts'.runs between left (acts.stays catalog between h ran) succeeds'
    exact ⟨catalog', run_append_eq_ok_iff.mpr ⟨between, ran, ran'⟩⟩
  stays catalog catalog' h ran := by
    obtain ⟨between, ran, ran'⟩ := run_append_eq_ok_iff.mp ran
    exact acts'.stays between catalog' (acts.stays catalog between h ran) ran'
  changes catalog catalog' h ran := by
    obtain ⟨between, ran, ran'⟩ := run_append_eq_ok_iff.mp ran
    rw [acts.changes catalog between h ran, Option.bind_some]
    exact acts'.changes between catalog' (acts.stays catalog between h ran) ran'
  keeps catalog catalog' h ran other different := by
    obtain ⟨between, ran, ran'⟩ := run_append_eq_ok_iff.mp ran
    rw [acts'.keeps between catalog' (acts.stays catalog between h ran) ran' other different]
    exact acts.keeps catalog between h ran other different

end

section

variable {α π ω : Type} {valid : Catalog → Prop} {look : Catalog → π → Option ω}
  {items : List α} {place : α → π} {script : α → List ScriptStep}
  {effect : α → Option ω → Option (Option ω)}
  (acts : ∀ item ∈ items, ActsAt valid look (place item) (script item) (effect item))

include acts

theorem stays_run_flatMap (h : valid catalog)
    (ran : run (items.flatMap script) catalog = .ok catalog') : valid catalog' := by
  induction items generalizing catalog with
  | nil =>
    cases ran
    exact h
  | cons item items ih =>
    rw [List.forall_mem_cons] at acts
    obtain ⟨between, ran, ran'⟩ := run_append_eq_ok_iff.mp ran
    exact ih acts.2 (acts.1.stays catalog between h ran) ran'

theorem keeps_run_flatMap (h : valid catalog)
    (ran : run (items.flatMap script) catalog = .ok catalog') (other : π)
    (elsewhere : other ∉ items.map place) : look catalog' other = look catalog other := by
  induction items generalizing catalog with
  | nil =>
    cases ran
    rfl
  | cons item items ih =>
    rw [List.forall_mem_cons] at acts
    rw [List.map_cons, List.mem_cons, not_or] at elsewhere
    obtain ⟨between, ran, ran'⟩ := run_append_eq_ok_iff.mp ran
    rw [ih acts.2 (acts.1.stays catalog between h ran) ran' elsewhere.2]
    exact acts.1.keeps catalog between h ran other elsewhere.1

/-- Every place is left as its own part leaves it. -/
theorem changes_run_flatMap (distinct : (items.map place).Nodup) (h : valid catalog)
    (ran : run (items.flatMap script) catalog = .ok catalog') :
    ∀ item ∈ items,
      effect item (look catalog (place item)) = some (look catalog' (place item)) := by
  induction items generalizing catalog with
  | nil => exact nofun
  | cons item items ih =>
    rw [List.forall_mem_cons] at acts ⊢
    rw [List.map_cons, List.nodup_cons] at distinct
    obtain ⟨between, ran, ran'⟩ := run_append_eq_ok_iff.mp ran
    have further := acts.1.stays catalog between h ran
    constructor
    · rw [keeps_run_flatMap acts.2 further ran' _ distinct.1]
      exact acts.1.changes catalog between h ran
    · intro later member
      have different : place later ≠ place item := by
        intro same
        rw [← same] at distinct
        exact distinct.1 (List.mem_map_of_mem member)
      rw [← acts.1.keeps catalog between h ran _ different]
      exact ih acts.2 distinct.2 further ran' later member

/-- Parts that succeed at the start succeed one after the other. -/
theorem exists_run_flatMap (distinct : (items.map place).Nodup) (h : valid catalog)
    (succeed : ∀ item ∈ items, ∃ left, effect item (look catalog (place item)) = some left) :
    ∃ catalog', run (items.flatMap script) catalog = .ok catalog' := by
  induction items generalizing catalog with
  | nil => exact ⟨catalog, rfl⟩
  | cons item items ih =>
    rw [List.forall_mem_cons] at acts succeed
    rw [List.map_cons, List.nodup_cons] at distinct
    obtain ⟨⟨left, succeeds⟩, succeed⟩ := succeed
    obtain ⟨between, ran⟩ := acts.1.runs catalog left h succeeds
    have stillSucceed : ∀ later ∈ items,
        ∃ left, effect later (look between (place later)) = some left := by
      intro later member
      have different : place later ≠ place item := by
        intro same
        rw [← same] at distinct
        exact distinct.1 (List.mem_map_of_mem member)
      rw [acts.1.keeps catalog between h ran _ different]
      exact succeed later member
    obtain ⟨catalog', ran'⟩ :=
      ih acts.2 distinct.2 (acts.1.stays catalog between h ran) stillSucceed
    exact ⟨catalog', run_append_eq_ok_iff.mpr ⟨between, ran, ran'⟩⟩

/-- Of two parts that take a free place, the later one would find it taken. -/
theorem nodup_of_run_flatMap
    (fresh : ∀ item ∈ items, ∀ stored left, effect item stored = some left →
      stored = none ∧ left ≠ none)
    (h : valid catalog) (ran : run (items.flatMap script) catalog = .ok catalog') :
    (items.map place).Nodup := by
  induction items generalizing catalog with
  | nil => exact List.nodup_nil
  | cons item items ih =>
    rw [List.forall_mem_cons] at acts fresh
    obtain ⟨between, ran, ran'⟩ := run_append_eq_ok_iff.mp ran
    have further := acts.1.stays catalog between h ran
    have distinct := ih acts.2 fresh.2 further ran'
    rw [List.map_cons, List.nodup_cons]
    refine ⟨?_, distinct⟩
    intro taken
    obtain ⟨later, member, same⟩ := List.mem_map.mp taken
    have found := changes_run_flatMap acts.2 distinct further ran' later member
    rw [same] at found
    have free := (fresh.2 later member _ _ found).1
    exact (fresh.1 _ _ (acts.1.changes catalog between h ran)).2 free

/-- The parts may come in another order, and the catalog may be another one that looks the same. -/
theorem exists_run_flatMap_of_perm {items' : List α} {other : Catalog} (perm : items.Perm items')
    (distinct : (items.map place).Nodup) (h : valid catalog) (h' : valid other)
    (same : ∀ place, look catalog place = look other place)
    (ran : run (items.flatMap script) catalog = .ok catalog') :
    ∃ other', run (items'.flatMap script) other = .ok other' ∧ valid other' ∧
      ∀ place, look catalog' place = look other' place := by
  have acts' : ∀ item ∈ items', ActsAt valid look (place item) (script item) (effect item) :=
    fun item member => acts item (perm.mem_iff.mpr member)
  have distinct' : (items'.map place).Nodup := (perm.map place).nodup_iff.mp distinct
  have changed := changes_run_flatMap acts distinct h ran
  obtain ⟨other', ran'⟩ : ∃ other', run (items'.flatMap script) other = .ok other' := by
    apply exists_run_flatMap acts' distinct' h'
    intro item member
    rw [← same]
    exact ⟨_, changed item (perm.mem_iff.mpr member)⟩
  refine ⟨other', ran', stays_run_flatMap acts' h' ran', fun there => ?_⟩
  by_cases here : there ∈ items.map place
  · obtain ⟨item, member, rfl⟩ := List.mem_map.mp here
    have left := changed item member
    rw [same, changes_run_flatMap acts' distinct' h' ran' item (perm.mem_iff.mp member)] at left
    exact (Option.some.inj left).symm
  · have here' : there ∉ items'.map place := fun member =>
      here ((perm.map place).mem_iff.mpr member)
    rw [keeps_run_flatMap acts h ran there here, keeps_run_flatMap acts' h' ran' there here', same]

end

end CatalogViews.Fixture
