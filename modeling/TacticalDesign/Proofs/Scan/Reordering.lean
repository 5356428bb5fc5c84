import TacticalDesign.Proofs.Graph.Indexing
import TacticalDesign.Proofs.Pool.Outcome
import TacticalDesign.Proofs.Scan.Rescan
/-!
# Scans in another order

Units that return and share no symbol id may come in any order and be worked on by any number of
workers: the graph is the same graph, so everything that is said of it is the same, and skips come
in the order of their units. Nothing else in a report depends on either.
-/

namespace TacticalDesign

variable {units units' : List SourceUnit}

/-! ## Graphs -/

namespace SymbolGraph

variable {symbols symbols' : List Symbol}

theorem keepFirst_of_nodup {seen : List String} (distinct : (symbols.map (·.id)).Nodup)
    (fresh : ∀ s ∈ symbols, s.id ∉ seen) : keepFirst seen symbols = symbols := by
  induction symbols generalizing seen with
  | nil => rfl
  | cons s rest ih =>
      obtain ⟨apart, distinct'⟩ := List.nodup_cons.mp (List.map_cons ▸ distinct)
      have fresh' : ∀ t ∈ rest, t.id ∉ s.id :: seen := by
        intro t ht hmem
        rcases List.mem_cons.mp hmem with same | seen_before
        · exact apart (same ▸ List.mem_map_of_mem ht)
        · exact fresh t (List.mem_cons_of_mem s ht) seen_before
      rw [keepFirst, if_neg (fresh s List.mem_cons_self), ih distinct' fresh']

theorem ofSymbols_perm (perm : symbols.Perm symbols') (distinct : (symbols.map (·.id)).Nodup) :
    ofSymbols symbols = ofSymbols symbols' := by
  have distinct' : (symbols'.map (·.id)).Nodup := (perm.map _).nodup_iff.mp distinct
  have kept : keepFirst [] symbols = symbols := keepFirst_of_nodup distinct (by simp)
  have kept' : keepFirst [] symbols' = symbols' := keepFirst_of_nodup distinct' (by simp)
  unfold ofSymbols
  rw [kept, kept']
  simp only [ofLists_perm perm]

end SymbolGraph

/-! ## Builds -/

/-- Every unit returns in time, with declarations or with a failure. -/
def Prompt (units : List SourceUnit) : Prop := ∀ u ∈ units, u.yield?.isSome

instance (units : List SourceUnit) : Decidable (Prompt units) :=
  inferInstanceAs (Decidable (∀ u ∈ units, _))

def DistinctIds (units : List SourceUnit) : Prop :=
  ((units.flatMap (·.symbols)).map (·.id)).Nodup

instance (units : List SourceUnit) : Decidable (DistinctIds units) :=
  inferInstanceAs (Decidable (List.Nodup _))

theorem Prompt.perm (prompt : Prompt units) (perm : units.Perm units') : Prompt units' :=
  fun u hu => prompt u (perm.mem_iff.mpr hu)

theorem Prompt.obedient (prompt : Prompt units) : ∀ u ∈ units, u.extraction ≠ .cancelling := by
  intro u hu asks
  have silent : u.yield? = none := SourceUnit.yield?_eq_none_iff.mpr (Or.inr asks)
  have returns := prompt u hu
  rw [silent] at returns
  cases returns

theorem Prompt.harvest_eq (prompt : Prompt units) (limit : Float) {workers : Nat}
    (employs : 0 < workers) :
    Harvest.ofUnits limit workers units =
      { parts := units.filterMap (·.part?)
        skipped := units.filterMap (·.skip? limit)
        complete := true } := by
  have none_stuck : ∀ i, (units.take i).countP (·.neverReturns) = 0 := by
    intro i
    refine List.countP_eq_zero.mpr fun u hu => ?_
    simpa [SourceUnit.neverReturns, Option.isSome_iff_ne_none] using
      prompt u (List.mem_of_mem_take hu)
  have within_reach : ∀ i, i < units.length ↔
      i < units.length ∧ (units.take i).countP (·.neverReturns) < workers := by
    intro i
    rw [none_stuck i]
    exact ⟨fun h => ⟨h, employs⟩, fun h => h.1⟩
  rw [Harvest.ofUnits_eq limit prompt.obedient within_reach, List.take_length, List.drop_length,
    List.map_nil, List.append_nil]

theorem flatMap_symbols_part? (units : List SourceUnit) :
    (units.filterMap (·.part?)).flatMap (·.symbols) = units.flatMap (·.symbols) := by
  induction units with
  | nil => rfl
  | cons u rest ih =>
      rw [List.flatMap_cons, ← ih, SourceUnit.symbols]
      cases hpart : u.part? with
      | none => rw [List.filterMap_cons_none hpart, List.nil_append]
      | some p => rw [List.filterMap_cons_some hpart, List.flatMap_cons]

/-- Two builds of the same graph that differ in the order of paths and skips at most. -/
structure Build.SameInOrder (b b' : Build) : Prop where
  graph : b.graph = b'.graph
  complete : b.complete = b'.complete
  unitCount : b.unitCount = b'.unitCount
  processed : b.processedPaths.Perm b'.processedPaths
  skipped : b.skipped.Perm b'.skipped

theorem Build.sameInOrder_of_ofHarvest {n : Nat} {h h' : Harvest}
    (parts : h.parts.Perm h'.parts) (skipped : h.skipped.Perm h'.skipped)
    (complete : h.complete = h'.complete) (distinct : (h.symbols.map (·.id)).Nodup) :
    ∃ b b', ofHarvest n h = .ok b ∧ ofHarvest n h' = .ok b' ∧ b.SameInOrder b' := by
  have same : SymbolGraph.ofSymbols (h.parts.flatMap (·.symbols)) =
      SymbolGraph.ofSymbols (h'.parts.flatMap (·.symbols)) :=
    SymbolGraph.ofSymbols_perm (parts.flatMap_right _) distinct
  obtain ⟨g, hg, -⟩ := SymbolGraph.ofSymbols_ok (h.parts.flatMap (·.symbols))
  refine ⟨⟨g, h.skipped, h.parts.map (·.path), n, h.complete⟩,
    ⟨g, h'.skipped, h'.parts.map (·.path), n, h'.complete⟩, ?_, ?_, ?_⟩
  · simp only [ofHarvest, hg]
  · simp only [ofHarvest, ← same, hg]
  · exact ⟨rfl, complete, rfl, parts.map _, skipped⟩

def ScanConfig.withWorkers (config : ScanConfig) (workers : Int) : ScanConfig :=
  { config with maxWorkers := workers }

theorem Build.inOrder_of_prompt {config : ScanConfig} (prompt : Prompt units)
    (employs : 0 < config.maxWorkers) :
    inOrder config units false = ofHarvest units.length
      { parts := units.filterMap (·.part?)
        skipped := units.filterMap (·.skip? config.unitTimeout)
        complete := true } := by
  have workers : 0 < config.maxWorkers.toNat := Int.lt_toNat.mpr employs
  rw [inOrder, prompt.harvest_eq config.unitTimeout workers]
  rfl

/-- The build of prompt units depends on neither their order nor the number of workers, but for the
order of paths and skips. -/
theorem Build.inOrder_perm {config : ScanConfig} {workers : Int} (perm : units.Perm units')
    (prompt : Prompt units) (distinct : DistinctIds units) (employs : 0 < config.maxWorkers)
    (employs' : 0 < workers) (cancelled : Bool) :
    ∃ b b', inOrder config units cancelled = .ok b ∧
      inOrder (config.withWorkers workers) units' cancelled = .ok b' ∧ b.SameInOrder b' := by
  have count : units.length = units'.length := perm.length_eq
  cases cancelled with
  | true =>
      -- Nothing is submitted, and only a build without units is complete.
      have empty : units.isEmpty = units'.isEmpty := by
        rw [Bool.eq_iff_iff, List.isEmpty_iff_length_eq_zero, List.isEmpty_iff_length_eq_zero,
          count]
      rw [inOrder, inOrder, if_pos rfl, if_pos rfl, ← count]
      exact sameInOrder_of_ofHarvest .nil .nil empty List.nodup_nil
  | false =>
      have prompt' := prompt.perm perm
      have built := inOrder_of_prompt prompt employs
      have built' : inOrder (config.withWorkers workers) units' false = _ :=
        inOrder_of_prompt prompt' employs'
      rw [built, built', ← count]
      refine sameInOrder_of_ofHarvest (perm.filterMap _) (perm.filterMap _) rfl ?_
      rw [Harvest.symbols, flatMap_symbols_part?]
      exact distinct

/-! ## Workers -/

/-- What undisturbed workers may leave a build with. -/
def Pool.Leaves (config : ScanConfig) (units : List SourceUnit) (x : Except BuildError Build) :
    Prop :=
  ∃ acts s, Run (.ofConfig config units) (submitted units.length) acts s ∧
    (∀ a ∈ acts, Undisturbed (.ofConfig config units) a) ∧ s.result? units.length = some x

theorem Pool.Leaves.outcome {config : ScanConfig} {x : Except BuildError Build}
    (leaves : Leaves config units x) (prompt : Prompt units) (employs : 0 < config.maxWorkers) :
    Build.Outcome config units false x := by
  obtain ⟨acts, s, run, calm, gives⟩ := leaves
  exact outcome_of_result employs prompt.obedient run calm gives

/-! ## Reports -/

namespace Comparison

variable (c : Comparison) {paths : List String}

theorem isUnverified_congr (same : ∀ p, p ∈ paths ↔ p ∈ c.skippedPaths) :
    ({ c with skippedPaths := paths } : Comparison).isUnverified = c.isUnverified := by
  funext s
  simp only [isUnverified, same]
  rfl

theorem unverified_congr (same : ∀ p, p ∈ paths ↔ p ∈ c.skippedPaths) :
    ({ c with skippedPaths := paths } : Comparison).unverified = c.unverified := by
  rw [unverified, isUnverified_congr c same, unverified]

theorem records_congr (same : ∀ p, p ∈ paths ↔ p ∈ c.skippedPaths) :
    ({ c with skippedPaths := paths } : Comparison).records = c.records := by
  have edges : ({ c with skippedPaths := paths } : Comparison).oldEdges = c.oldEdges := by
    funext id
    rw [oldEdges, unverified_congr c same]
    rfl
  have recorded : ({ c with skippedPaths := paths } : Comparison).recordOf = c.recordOf := by
    funext prior current s
    rw [recordOf, edges]
    rfl
  funext prior current
  rw [records, isUnverified_congr c same, recorded]
  rfl

end Comparison

namespace Baseline

variable {b : Baseline} {graph : SymbolGraph} {aliases : Aliases} {paths paths' : List String}

theorem changes_congr (same : ∀ p, p ∈ paths' ↔ p ∈ paths) (current : List Classification) :
    b.changes graph current aliases paths' = b.changes graph current aliases paths := by
  have records := Comparison.records_congr ⟨b.graph, graph, aliases, paths⟩ same
  unfold changes comparison
  cases checkSchema b.schemaVersion with
  | error m => rfl
  | ok _ =>
      cases aliases.check b.graph graph with
      | error e => rfl
      | ok _ => exact congrArg (fun f => Except.ok (f b.classifications current)) records

theorem unverified_congr (same : ∀ p, p ∈ paths' ↔ p ∈ paths) :
    b.unverified graph aliases paths' = b.unverified graph aliases paths := by
  have looked := Comparison.unverified_congr ⟨b.graph, graph, aliases, paths⟩ same
  unfold unverified comparison
  cases aliases.check b.graph graph with
  | error e => rfl
  | ok _ => exact congrArg Except.ok looked

end Baseline

/-- Two reports with one document, up to the order of the skips. -/
structure ScanReport.SameDocument (r r' : ScanReport) : Prop where
  skipped : r.skipped.Perm r'.skipped
  document : ({ r with skipped := r'.skipped } : ScanReport).toJson = r'.toJson

namespace ScanEngine

def withWorkers (engine : ScanEngine) (workers : Int) : ScanEngine :=
  { engine with config := engine.config.withWorkers workers }

variable {engine : ScanEngine} {build build' : Build}

theorem ofSymbols_withWorkers (registry : RuleRegistry) (config : ScanConfig) (workers : Int)
    (graph : SymbolGraph) (symbols : List Symbol) :
    Classification.ofSymbols registry (config.withWorkers workers) graph symbols =
      Classification.ofSymbols registry config graph symbols := by
  induction symbols with
  | nil => rfl
  | cons s rest ih =>
      rw [Classification.ofSymbols, Classification.ofSymbols, ih]
      rfl

theorem assess_withWorkers (engine : ScanEngine) (workers : Int) (graph : SymbolGraph) :
    (engine.withWorkers workers).assess graph = engine.assess graph := by
  have classified : Classification.ofGraph engine.registry (engine.config.withWorkers workers)
      graph = Classification.ofGraph engine.registry engine.config graph :=
    ofSymbols_withWorkers engine.registry engine.config workers graph graph.symbols
  have detected : ∀ roles, AntiPattern.detect (engine.config.withWorkers workers) graph roles =
      AntiPattern.detect engine.config graph roles := fun roles => rfl
  unfold assess withWorkers
  simp only [classified, detected]

theorem compare_withWorkers (engine : ScanEngine) (workers : Int) (same : build.SameInOrder build')
    (b : Baseline) (cs : List Classification) (aliases : Aliases) :
    (engine.withWorkers workers).compare b build' cs aliases =
      engine.compare b build cs aliases := by
  have skipped : ∀ p, p ∈ build'.skipped.map (·.path) ↔ p ∈ build.skipped.map (·.path) :=
    fun p => (same.skipped.map _).mem_iff.symm
  simp only [compare, ← same.graph, Baseline.changes_congr skipped,
    Baseline.unverified_congr skipped]
  rfl

theorem summarize_withWorkers (engine : ScanEngine) (workers : Int)
    (same : build.SameInOrder build') (baseline : Option Baseline) (cs : List Classification)
    (aliases : Aliases) :
    (engine.withWorkers workers).summarize build' baseline cs aliases =
      engine.summarize build baseline cs aliases := by
  cases baseline with
  | none => rfl
  | some b => simp only [summarize, compare_withWorkers engine workers same, same.complete]

def SameEnd (x y : Except ScanError ScanReport) : Prop :=
  (∃ e, x = .error e ∧ y = .error e) ∨ ∃ r r', x = .ok r ∧ y = .ok r' ∧ r.SameDocument r'

/-- Nothing in a report but the order of the skips depends on the order of a build. -/
theorem sameEnd_of_report (engine : ScanEngine) (workers : Int) (same : build.SameInOrder build')
    (baseline : Option Baseline) (aliases : Aliases) :
    SameEnd (engine.report build baseline aliases)
      ((engine.withWorkers workers).report build' baseline aliases) := by
  rw [report_eq, report_eq, assess_withWorkers, ← same.graph]
  cases assessed : engine.assess build.graph with
  | error e => exact Or.inl ⟨e, rfl, rfl⟩
  | ok parts =>
      obtain ⟨cs, fs⟩ := parts
      simp only [bind, Except.bind, summarize_withWorkers engine workers same]
      cases engine.summarize build baseline cs aliases with
      | error e => exact Or.inl ⟨e, rfl, rfl⟩
      | ok summary =>
          have covered : cs.map (·.symbolId) = build.graph.ids := symbolIds_of_assess assessed
          have covered' : cs.map (·.symbolId) = build'.graph.ids := same.graph ▸ covered
          have checked := ScanReport.check_ok (r := engine.reportOf build cs fs summary) covered
          have checked' := ScanReport.check_ok
            (r := (engine.withWorkers workers).reportOf build' cs fs summary) covered'
          refine Or.inr ⟨_, _, congrArg (wrap .coverage) checked,
            congrArg (wrap .coverage) checked', same.skipped, ?_⟩
          have processed := same.processed.length_eq
          simp only [ScanReport.toJson, ScanReport.countsJson, ScanReport.diagnosticsJson, reportOf,
            processed, same.complete, same.unitCount, same.graph]
          rfl

theorem overdraws_perm (config : ScanConfig) (perm : units.Perm units') (workers : Int)
    (cancelled : Bool) : Build.overdraws (config.withWorkers workers) units' cancelled =
      Build.overdraws config units cancelled := by
  have empty : units'.isEmpty = units.isEmpty := by
    rw [Bool.eq_iff_iff, List.isEmpty_iff_length_eq_zero, List.isEmpty_iff_length_eq_zero,
      perm.length_eq]
  rw [Build.overdraws, Build.overdraws, empty]
  rfl

/-- Prompt units with different symbol ids may come in any order, and any number of workers may take
turns on them in any way: the scan ends in the same way, with the same error or with the same
document up to the order of the skips, unless a wait is too long and one of the two fails in it. -/
theorem run_perm (engine : ScanEngine) (perm : units.Perm units') (prompt : Prompt units)
    (distinct : DistinctIds units) {workers : Int} (employs : 0 < engine.config.maxWorkers)
    (employs' : 0 < workers) (baseline : Option Baseline) (aliases : Aliases) (cancelled : Bool) :
    (∀ x x', engine.MayReturn units baseline aliases cancelled x →
      (engine.withWorkers workers).MayReturn units' baseline aliases cancelled x' →
        SameEnd x x' ∨ Build.overdraws engine.config units cancelled = true ∧
          (x = .error (.build .waitTooLong) ∨ x' = .error (.build .waitTooLong))) ∧
      (∀ b, Pool.Leaves engine.config units b → Build.Outcome engine.config units false b) ∧
      ∀ b, Pool.Leaves (engine.withWorkers workers).config units' b →
        Build.Outcome (engine.withWorkers workers).config units' false b := by
  obtain ⟨b, b', built, built', same⟩ :=
    Build.inOrder_perm perm prompt distinct employs employs' cancelled
  refine ⟨fun x x' ended ended' => ?_, fun b leaves => leaves.outcome prompt employs,
    fun b leaves => leaves.outcome (prompt.perm perm) employs'⟩
  have told : SameEnd (engine.runOn (.ok b) baseline aliases)
      ((engine.withWorkers workers).runOn (.ok b') baseline aliases) := by
    have reported := sameEnd_of_report engine workers same baseline aliases
    cases baseline with
    | none => exact reported
    | some baseline =>
        cases schema : Baseline.checkSchema baseline.schemaVersion with
        | error m =>
            refine Or.inl ⟨.schema m, ?_, ?_⟩ <;> simp only [runOn, schema] <;> rfl
        | ok _ =>
            simp only [runOn, schema]
            exact reported
  have long := overdraws_perm engine.config perm workers cancelled
  rcases ends_of_runOn engine built rfl x ended with rfl | ⟨beyond, failed⟩
  · rcases ends_of_runOn (engine.withWorkers workers) built' rfl x' ended' with
      rfl | ⟨beyond, failed⟩
    · exact Or.inl told
    · exact Or.inr ⟨long.symm.trans beyond, Or.inr failed⟩
  · exact Or.inr ⟨beyond, Or.inl failed⟩

/-- A class and a unit that fails, scanned by four workers and, the other way round, by one. -/
theorem run_perm_failing_unit :
    ∃ r r', (standard {}).run [oneClass "a.java" "A", unreadable "b.java"] none [] false = .ok r ∧
      ((standard {}).withWorkers 1).run [unreadable "b.java", oneClass "a.java" "A"] none [] false =
        .ok r' ∧ r.SameDocument r' := by
  have swapped : [oneClass "a.java" "A", unreadable "b.java"].Perm
      [unreadable "b.java", oneClass "a.java" "A"] := .swap _ _ []
  have employs : (0 : Int) < 1 := by decide
  obtain ⟨same, -⟩ := run_perm (standard {}) swapped (by decide) (by decide) (by decide) employs
    none [] false
  obtain ⟨b, built⟩ := Build.inOrder_ok {} [oneClass "a.java" "A", unreadable "b.java"] false
  rcases runOn_standard_cases {} _ b [] readable_none with ⟨-, report, told, -⟩ | ⟨misfit, -⟩
  · have ran := mayReturn_of_short (standard {}) (by decide) built told
    rcases same _ _ ran (mayReturn_run _ _ _ _ _) with (⟨e, failed, -⟩ | both) | ⟨long, -⟩
    · cases failed
    · obtain ⟨r, r', returned, ran', alike⟩ := both
      exact ⟨r, r', (ran.run_eq (by decide)).trans returned, ran', alike⟩
    · cases long
  · exact absurd (fun b hb => nomatch hb) misfit

/-- With an accepted poll interval of ten billion seconds a scan of one class fails with one worker,
as long as this one is at work when the wait begins, and reports with two that are done by then. -/
theorem run_turns_on_workers :
    let config : ScanConfig := { pollInterval := 1e10, maxWorkers := 1 }
    let units := [oneClass "a.java" "A"]
    config.check = .ok config ∧ Prompt units ∧ DistinctIds units ∧
      ∃ x x', (standard config).MayReturn units none [] false x ∧
        ((standard config).withWorkers 2).MayReturn units none [] false x' ∧ ¬SameEnd x x' := by
  intro config units
  have accepted : config.violation? = none := by decide
  have beyond : Build.longestWait < config.pollInterval := by decide
  have long : Build.overdraws config units false = true := by simp [Build.overdraws, beyond, units]
  refine ⟨by simp only [ScanConfig.check, accepted], by decide, by decide,
    .error (.build .waitTooLong), _, ⟨_, .overdrawn long, rfl⟩, ⟨_, .settled fun _ => ?_, rfl⟩, ?_⟩
  · decide
  obtain ⟨b, built⟩ := Build.inOrder_ok ((standard config).withWorkers 2).config units false
  rintro (⟨e, failed, same⟩ | ⟨r, -, returned, -⟩)
  · obtain rfl := Except.error.inj failed
    rw [built] at same
    rcases runOn_standard_cases (config.withWorkers 2) Likeness.indelRatio b [] readable_none with
      ⟨-, report, told, -⟩ | ⟨misfit, -⟩
    · have told : ((standard config).withWorkers 2).runOn (.ok b) none [] = .ok report := told
      rw [told] at same
      cases same
    · refine misfit fun b hb => ?_
      cases hb
  · cases returned

end ScanEngine

end TacticalDesign
