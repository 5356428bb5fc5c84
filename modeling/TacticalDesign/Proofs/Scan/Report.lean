import TacticalDesign.Proofs.AntiPattern.Detection
import TacticalDesign.Proofs.Classification.Evidence
import TacticalDesign.Proofs.Graph.Lookup
import TacticalDesign.Scan
/-!
# Scans end in a report

With both fallbacks at hand a scan without a baseline fails for one reason only: it would have to
wait for longer than a clock can tell. Otherwise its report has one classification for each symbol,
and the rationale of each cites the rules behind it.
-/

namespace TacticalDesign

/-! ## Rationales -/

private theorem infix_intercalate {sep x : String} {items : List String} (h : x ∈ items) :
    x.toList <:+: (String.intercalate sep items).toList := by
  induction items with
  | nil => cases h
  | cons a rest ih =>
      by_cases hr : rest = []
      · subst hr
        obtain rfl := List.mem_singleton.mp h
        simp only [String.intercalate_singleton, List.infix_rfl]
      · rw [String.intercalate_cons_of_ne_nil hr, String.toList_append, String.toList_append]
        rcases List.mem_cons.mp h with rfl | hm
        · exact ((List.prefix_append _ _).trans (List.prefix_append _ _)).isInfix
        · exact (ih hm).trans (List.suffix_append _ _).isInfix

theorem Rationale.infix_ofClassification (registry : RuleRegistry) {c : Classification}
    {id : String} (h : id ∈ c.evidence) :
    (cite registry id).toList <:+: (ofClassification registry c).toList := by
  have cited : (cite registry id).toList <:+: (summary registry c).toList := by
    unfold summary
    rw [String.toList_append]
    exact (infix_intercalate (List.mem_map_of_mem h)).trans (List.suffix_append _ _).isInfix
  exact cited.trans (infix_intercalate (by simp))

namespace Classification

variable {registry : RuleRegistry} {graph : SymbolGraph}

/-- A supported classification whose rationale cites the rules of its evidence with their
descriptions. -/
structure Explained (registry : RuleRegistry) (graph : SymbolGraph) (s : Symbol)
    (c : Classification) : Prop where
  supported : Supported registry graph s c
  cited : ∀ r ∈ registry.rules, r.id ∈ c.evidence →
    (r.id ++ " " ++ r.description).toList <:+: c.rationale.toList

theorem explain_ok (distinct : (registry.rules.map (·.id)).Nodup) {s : Symbol}
    {c : Classification} (h : Supported registry graph s c) :
    ∃ e, c.explain registry = .ok e ∧ Explained registry graph s e := by
  have some_evidence : c.evidence.isEmpty = false := by
    simpa using h.evidence_ne_nil
  refine ⟨{ c with rationale := Rationale.ofClassification registry c }, ?_, ?_, ?_⟩
  · simp only [explain, some_evidence, h.level_known]
    rfl
  · exact ⟨h.about, h.level_known, h.evidence_ne_nil, h.evidence_iff⟩
  · intro r hr hid
    have found : registry.get? r.id = some r :=
      (find?_key_iff Rule.id distinct).mpr ⟨hr, rfl⟩
    have cited := Rationale.infix_ofClassification registry (c := c) hid
    simpa only [Rationale.cite, found] using cited

theorem explainAll_ok (distinct : (registry.rules.map (·.id)).Nodup) {symbols : List Symbol}
    {cs : List Classification} (h : List.Forall₂ (Supported registry graph) symbols cs) :
    ∃ es, explainAll registry cs = .ok es ∧
      List.Forall₂ (Explained registry graph) symbols es := by
  induction h with
  | nil => exact ⟨[], rfl, .nil⟩
  | cons supported _ ih =>
      obtain ⟨e, he, explained⟩ := explain_ok distinct supported
      obtain ⟨es, hes, all⟩ := ih
      exact ⟨e :: es, by simp only [explainAll, he, hes], .cons explained all⟩

theorem symbolIds_eq {symbols : List Symbol} {cs : List Classification}
    (h : List.Forall₂ (Explained registry graph) symbols cs) :
    cs.map (·.symbolId) = symbols.map (·.id) := by
  induction h with
  | nil => rfl
  | cons explained _ ih => rw [List.map_cons, List.map_cons, explained.supported.about, ih]

end Classification

/-! ## Findings -/

namespace AntiPattern

variable {config : ScanConfig} {graph : SymbolGraph} {roles : RoleMap} {f : Finding}

theorem severity_of_mem_detect (h : f ∈ detect config graph roles) :
    f.severity.isKnown = true := by
  have known : ∀ p ∈ catalog, p.severity.isKnown = true := by
    decide
  obtain ⟨p, hp, makes⟩ := exists_makes config graph roles h
  rw [makes.severity]
  exact known p hp

end AntiPattern

theorem Finding.explainAll_ok (findings : List Finding)
    (known : ∀ f ∈ findings, f.severity.isKnown = true) :
    ∃ explained, explainAll findings = .ok explained := by
  induction findings with
  | nil => exact ⟨[], rfl⟩
  | cons f rest ih =>
      obtain ⟨es, hes⟩ := ih fun g hg => known g (List.mem_cons_of_mem f hg)
      have hf : f.explain = .ok { f with rationale := Rationale.ofFinding f } :=
        if_pos (known f List.mem_cons_self)
      exact ⟨_, by simp only [explainAll, hf, hes]; rfl⟩

/-! ## Reports -/

theorem ScanReport.check_ok {r : ScanReport}
    (covered : r.classifications.map (·.symbolId) = r.graph.ids) :
    r.check = .ok r := by
  have ascends : r.graph.ids.Pairwise fun a b => textLe a b = true := by
    refine List.pairwise_map.mpr (r.graph.symbols_ascend.imp ?_)
    intro a b h
    exact textLe_iff.mpr (String.not_lt.mp (String.lt_asymm h))
  have sorted : sortTexts (r.classifications.map (·.symbolId)) = r.graph.ids := by
    rw [covered]
    exact List.mergeSort_of_pairwise ascends
  have kept : r.classifications.mergeSort (fun a b => textLe a.symbolId b.symbolId) =
      r.classifications := by
    rw [← covered] at ascends
    exact List.mergeSort_of_pairwise (List.pairwise_map.mp ascends)
  unfold check
  rw [if_pos sorted, kept]

namespace ScanEngine

variable {engine : ScanEngine}

/-- What a report without a baseline says about the symbols of its graph. -/
structure Explains (engine : ScanEngine) (report : ScanReport) : Prop where
  one_each : report.classifications.map (·.symbolId) = report.graph.symbols.map (·.id)
  ascend : report.classifications.Pairwise fun a b => a.symbolId < b.symbolId
  explained : List.Forall₂ (Classification.Explained engine.registry report.graph)
    report.graph.symbols report.classifications
  resolves : ∀ roles, report.graph.Resolves roles

theorem report_ok (catalog : engine.registry.OfCatalog)
    (covers : Classification.Covers engine.registry) (build : Build) (aliases : Aliases) :
    ∃ report, engine.report build none aliases = .ok report ∧ engine.Explains report ∧
      report.graph = build.graph := by
  obtain ⟨cs, hcs, supported⟩ :=
    Classification.ofSymbols_ok covers engine.config build.graph build.graph.symbols
  obtain ⟨es, hes, explained⟩ := Classification.explainAll_ok catalog.distinct supported
  have covered := Classification.symbolIds_eq explained
  obtain ⟨fs, hfs⟩ := Finding.explainAll_ok
    (AntiPattern.detect engine.config build.graph (cs.map fun c => (c.symbolId, c.role)))
    fun f hf => AntiPattern.severity_of_mem_detect hf
  have ascend : es.Pairwise fun a b => a.symbolId < b.symbolId := by
    have h : (build.graph.symbols.map (·.id)).Pairwise (· < ·) :=
      List.pairwise_map.mpr build.graph.symbols_ascend
    rw [← covered] at h
    exact List.pairwise_map.mp h
  let report : ScanReport :=
    { registryVersion := engine.registry.version
      registryFingerprint := engine.registry.fingerprint
      complete := build.complete
      unitCount := build.unitCount
      processedPaths := build.processedPaths
      classifications := es
      findings := fs
      skipped := build.skipped
      graph := build.graph }
  have checked : report.check = .ok report := ScanReport.check_ok covered
  refine ⟨report, ?_, ⟨covered, ascend, explained, SymbolGraph.resolves build.graph⟩, rfl⟩
  unfold ScanEngine.report
  simp only [Classification.ofGraph, hcs, hes, hfs, wrap, bind, Except.bind, pure, Except.pure,
    Option.map_none, Option.getD_none]
  exact congrArg (wrap .coverage) checked

/-! ## Ends of scans -/

section

variable {units : List SourceUnit} {baseline : Option Baseline} {aliases : Aliases}
  {cancelled : Bool} {build : Build} {x : Except ScanError ScanReport}

theorem ends_of_runOn (engine : ScanEngine)
    (built : Build.inOrder engine.config units cancelled = .ok build)
    (ran : engine.runOn (.ok build) baseline aliases = x) :
    engine.Ends units baseline aliases cancelled x := by
  rintro y ⟨made, outcome, rfl⟩
  rcases outcome.cases with rfl | ⟨long, rfl⟩
  · exact Or.inl (built ▸ ran)
  · subst ran
    cases baseline with
    | none => exact Or.inr ⟨long, rfl⟩
    | some b =>
        -- A baseline that cannot be read is refused before the build begins.
        cases schema : Baseline.checkSchema b.schemaVersion with
        | error m => exact Or.inl (by simp only [runOn, schema]; rfl)
        | ok _ => exact Or.inr ⟨long, by simp only [runOn, schema]; rfl⟩

theorem mayReturn_of_short (engine : ScanEngine)
    (short : Build.overdraws engine.config units cancelled = false)
    (built : Build.inOrder engine.config units cancelled = .ok build)
    (ran : engine.runOn (.ok build) baseline aliases = x) :
    engine.MayReturn units baseline aliases cancelled x :=
  ⟨_, Build.outcome_of_short short, built ▸ ran⟩

theorem mayReturn_run (engine : ScanEngine) (units : List SourceUnit) (baseline : Option Baseline)
    (aliases : Aliases) (cancelled : Bool) :
    engine.MayReturn units baseline aliases cancelled
      (engine.run units baseline aliases cancelled) :=
  ⟨_, Build.ofUnits_outcome _ _ _, rfl⟩

theorem MayReturn.run_eq (h : engine.MayReturn units baseline aliases cancelled x)
    (short : Build.overdraws engine.config units cancelled = false) :
    engine.run units baseline aliases cancelled = x := by
  obtain ⟨made, outcome, rfl⟩ := h
  rcases outcome.cases with rfl | ⟨long, -⟩
  · rw [run, Build.ofUnits_of_short short]
  · rw [short] at long
    cases long

theorem Ends.run_eq (ends : engine.Ends units baseline aliases cancelled x)
    (short : Build.overdraws engine.config units cancelled = false) :
    engine.run units baseline aliases cancelled = x := by
  rcases ends _ (mayReturn_run engine units baseline aliases cancelled) with same | ⟨long, -⟩
  · exact same
  · rw [short] at long
    cases long

end

/-! ## Scans without a baseline -/

/-- A scan without a baseline, by any rules of the catalog that include both fallbacks, ends with a
report unless a wait is too long. The report classifies every symbol of its graph once, in the order
of the ids, by rules of the role that scored the symbol above zero, and its rationales cite them. A
wait that is too long may fail wherever there is a unit to wait for, and does if no unit is ever
done. -/
theorem run_reports (engine : ScanEngine) (units : List SourceUnit) (aliases : Aliases)
    (cancelled : Bool) (customized : engine.registry.Customized)
    (entity : (engine.registry.get? "FB-001").isSome)
    (value : (engine.registry.get? "FB-002").isSome) :
    (∃ report, engine.Ends units none aliases cancelled (.ok report) ∧ engine.Explains report) ∧
      (engine.MayReturn units none aliases cancelled (.error (.build .waitTooLong)) ↔
        Build.overdraws engine.config units cancelled = true) ∧
      ((∃ report, engine.MayReturn units none aliases cancelled (.ok report)) ↔
        (Build.overdraws engine.config units cancelled = true →
          Build.neverDone engine.config units = false)) := by
  have catalog := customized.ofCatalog
  obtain ⟨build, built⟩ := Build.inOrder_ok engine.config units cancelled
  obtain ⟨report, reported, explains, -⟩ :=
    report_ok catalog (catalog.covers entity value) build aliases
  have ran : engine.runOn (.ok build) none aliases = .ok report := reported
  have ends := ends_of_runOn engine built ran
  refine ⟨⟨report, ends, explains⟩, ⟨fun failed => ?_, fun long => ⟨_, .overdrawn long, rfl⟩⟩,
    ?_, fun spared => ⟨report, _, .settled spared, built ▸ ran⟩⟩
  · rcases ends _ failed with contrary | ⟨long, -⟩
    · cases contrary
    · exact long
  · rintro ⟨report', x, outcome, returned⟩
    cases outcome with
    | settled spared => exact spared
    | overdrawn long => cases returned

open RuleRegistry (fallbacks_standard)

/-- A unit that fails and one that declares a class make a report under the standard settings. -/
theorem run_reports_standard :
    let engine : ScanEngine := { config := {}, registry := RuleRegistry.standard }
    let units : List SourceUnit := [⟨"A.java", "java", .failed (.value "broken")⟩,
      ⟨"B.java", "java", .declared [{ name := "B" }]⟩]
    ∃ report, engine.run units none [] false = .ok report ∧ engine.Explains report ∧
      "B.java::B" ∈ report.classifications.map (·.symbolId) := by
  intro engine units
  obtain ⟨⟨report, ends, explains⟩, -⟩ := run_reports engine units [] false .standard
    fallbacks_standard.1 fallbacks_standard.2
  have ran := ends.run_eq (by decide)
  refine ⟨report, ran, explains, ?_⟩
  -- The graph of the report is that of the build, which holds the class.
  obtain ⟨build, made, holds, -⟩ := Build.ofHarvest_ok units.length
    (Harvest.ofUnits engine.config.unitTimeout engine.config.maxWorkers.toNat units)
  have catalog : engine.registry.OfCatalog := RuleRegistry.ofCatalog_standard
  obtain ⟨report', reported, -, graph⟩ := report_ok catalog
    (catalog.covers fallbacks_standard.1 fallbacks_standard.2) build []
  have built : Build.inOrder engine.config units false = .ok build := made
  have told : engine.runOn (.ok build) none [] = .ok report' := reported
  have ran' := (ends_of_runOn engine built told).run_eq (by decide)
  obtain rfl : report = report' := Except.ok.inj (ran.symm.trans ran')
  rw [explains.one_each, graph]
  by_contra outside
  rw [← SymbolGraph.ids, ← SymbolGraph.get?_eq_none_iff, holds] at outside
  exact absurd outside (by decide)

/-- An accepted poll interval of ten billion seconds: with a unit that never returns there is no
report, and one that returns may still be at work when the scan begins to wait. -/
theorem run_waits_too_long :
    let config : ScanConfig := { pollInterval := 1e10 }
    let engine : ScanEngine := { config, registry := RuleRegistry.standard }
    config.check = .ok config ∧ config.pollInterval.isFinite = true ∧
      (∀ x, engine.MayReturn [⟨"Slow.java", "java", .overrun⟩] none [] false x →
        x = .error (.build .waitTooLong)) ∧
      engine.MayReturn [⟨"A.java", "java", .declared []⟩] none [] false
        (.error (.build .waitTooLong)) := by
  intro config engine
  have accepted : config.violation? = none := by decide
  have long (u : SourceUnit) : Build.overdraws config [u] false = true := by
    have beyond : Build.longestWait < config.pollInterval := by decide
    simp [Build.overdraws, beyond]
  refine ⟨by simp only [ScanConfig.check, accepted], by decide, ?_, _, .overdrawn (long _), rfl⟩
  rintro x ⟨made, outcome, rfl⟩
  cases outcome with
  | settled spared => exact absurd (spared (long _)) (by decide)
  | overdrawn long => rfl

end ScanEngine

end TacticalDesign
