import TacticalDesign.Proofs.Diff.RenameHints
import TacticalDesign.Proofs.Except
import TacticalDesign.Proofs.Scan.Report
/-!
# What a baseline adds to a report

A report puts together what is said of the graph alone, the classifications and the findings, and
what a comparison adds. The first does not depend on the baseline, and the second fails only where
aliases do not fit.
-/

namespace TacticalDesign

theorem Baseline.changes_of_misfit {b : Baseline} {graph : SymbolGraph} {aliases : Aliases}
    (readable : HasCurrentMajor b.schemaVersion) (misfit : aliases.Misfit b.graph graph)
    (current : List Classification) (skippedPaths : List String) :
    ∃ e, b.changes graph current aliases skippedPaths = .error (.aliasing e) := by
  have schema := checkSchema_ok_iff.mpr readable
  cases check : aliases.check b.graph graph with
  | ok _ => exact absurd misfit (Aliases.check_ok_iff.mp check)
  | error e => exact ⟨e, by simp only [changes, comparison, schema, check]⟩

/-! ## Reports in two parts -/

namespace ScanReport

theorem toBaseline_of_complete {r : ScanReport} (complete : r.complete = true)
    (rootPath : String) : r.toBaseline rootPath = .ok (r.capture rootPath) :=
  if_pos complete

theorem readable_capture (r : ScanReport) (rootPath : String) :
    Baseline.HasCurrentMajor (r.capture rootPath).schemaVersion :=
  ⟨Baseline.currentSchema, rfl, by decide, by decide⟩

end ScanReport

namespace ScanEngine

variable {engine : ScanEngine} {build : Build} {baseline : Option Baseline} {aliases : Aliases}
  {b : Baseline} {graph : SymbolGraph} {cs : List Classification} {fs : List Finding}

def assess (engine : ScanEngine) (graph : SymbolGraph) :
    Except ScanError (List Classification × List Finding) := do
  let classified ← wrap .rule (Classification.ofGraph engine.registry engine.config graph)
  let found := AntiPattern.detect engine.config graph
    (classified.map fun c => (c.symbolId, c.role))
  let classifications ← wrap .rationale (Classification.explainAll engine.registry classified)
  let findings ← wrap .rationale (Finding.explainAll found)
  return (classifications, findings)

/-- What a comparison adds to the report on a build, where there is a baseline and the build is
complete. -/
def summarize (engine : ScanEngine) (build : Build) (baseline : Option Baseline)
    (cs : List Classification) (aliases : Aliases) : Except ScanError (Option ChangeSummary) :=
  match baseline with
  | some b => if build.complete then (engine.compare b build cs aliases).map some else pure none
  | none => pure none

def reportOf (engine : ScanEngine) (build : Build) (cs : List Classification)
    (fs : List Finding) (summary : Option ChangeSummary) : ScanReport :=
  { registryVersion := engine.registry.version
    registryFingerprint := engine.registry.fingerprint
    complete := build.complete
    unitCount := build.unitCount
    processedPaths := build.processedPaths
    classifications := cs
    findings := fs
    skipped := build.skipped
    changes := summary.map (·.changes)
    renameHints := (summary.map (·.renameHints)).getD []
    unverifiedSymbols := (summary.map (·.unverified)).getD []
    graph := build.graph }

theorem report_eq (engine : ScanEngine) (build : Build) (baseline : Option Baseline)
    (aliases : Aliases) :
    engine.report build baseline aliases = (do
      let parts ← engine.assess build.graph
      let summary ← engine.summarize build baseline parts.1 aliases
      wrap .coverage (engine.reportOf build parts.1 parts.2 summary).check) := by
  unfold report assess summarize
  simp only [bind_assoc, pure_bind]
  cases baseline with
  | none => rfl
  | some b =>
      by_cases complete : build.complete = true
      · simp only [if_pos complete]
        rfl
      · simp only [if_neg complete]
        rfl

theorem wrap_eq_ok {ε α : Type} {f : ε → ScanError} {x : Except ε α} {a : α} :
    wrap f x = .ok a ↔ x = .ok a := by
  cases x <;> simp [wrap]

theorem symbolIds_of_ofSymbols {registry : RuleRegistry} {config : ScanConfig}
    {symbols : List Symbol} {cs : List Classification}
    (h : Classification.ofSymbols registry config graph symbols = .ok cs) :
    cs.map (·.symbolId) = symbols.map (·.id) := by
  rw [Classification.ofSymbols_eq_mapM] at h
  exact map_of_mapM Classification.symbolId_of_ofSymbol h

theorem symbolIds_of_explainAll {registry : RuleRegistry} {cs es : List Classification}
    (h : Classification.explainAll registry cs = .ok es) :
    es.map (·.symbolId) = cs.map (·.symbolId) := by
  rw [Classification.explainAll_eq_mapM] at h
  exact map_of_mapM Classification.symbolId_of_explain h

theorem classified_of_assess (h : engine.assess graph = .ok (cs, fs)) :
    ∃ classified,
      Classification.ofSymbols engine.registry engine.config graph graph.symbols =
        .ok classified ∧
      Classification.explainAll engine.registry classified = .ok cs := by
  obtain ⟨classified, hc, h⟩ := bind_eq_ok.mp h
  obtain ⟨es, he, h⟩ := bind_eq_ok.mp h
  obtain ⟨found, -, h⟩ := bind_eq_ok.mp h
  cases h
  exact ⟨classified, wrap_eq_ok.mp hc, wrap_eq_ok.mp he⟩

theorem symbolIds_of_assess (h : engine.assess graph = .ok (cs, fs)) :
    cs.map (·.symbolId) = graph.ids := by
  obtain ⟨classified, made, explained⟩ := classified_of_assess h
  rw [symbolIds_of_explainAll explained, symbolIds_of_ofSymbols made]
  rfl

theorem report_ok_iff {r : ScanReport} :
    engine.report build baseline aliases = .ok r ↔
      ∃ cs fs summary, engine.assess build.graph = .ok (cs, fs) ∧
        engine.summarize build baseline cs aliases = .ok summary ∧
        r = engine.reportOf build cs fs summary := by
  rw [report_eq, bind_eq_ok]
  constructor
  · rintro ⟨⟨cs, fs⟩, assessed, h⟩
    obtain ⟨summary, summarized, h⟩ := bind_eq_ok.mp h
    rw [ScanReport.check_ok (symbolIds_of_assess assessed)] at h
    exact ⟨cs, fs, summary, assessed, summarized, (Except.ok.inj h).symm⟩
  · rintro ⟨cs, fs, summary, assessed, summarized, rfl⟩
    refine ⟨(cs, fs), assessed, bind_eq_ok.mpr ⟨summary, summarized, ?_⟩⟩
    rw [ScanReport.check_ok (symbolIds_of_assess assessed)]
    rfl

/-! ## Comparing -/

def comparisonOf (b : Baseline) (build : Build) (aliases : Aliases) : Comparison :=
  ⟨b.graph, build.graph, aliases, build.skipped.map (·.path)⟩

theorem compare_of_fit (engine : ScanEngine) (cs : List Classification)
    (readable : Baseline.HasCurrentMajor b.schemaVersion)
    (fit : ¬aliases.Misfit b.graph build.graph) :
    ∃ hints, engine.compare b build cs aliases =
      .ok ⟨(comparisonOf b build aliases).records b.classifications cs, hints,
        (comparisonOf b build aliases).unverified⟩ ∧
      RenameHint.ofChanges engine.ratio engine.config.renameThreshold
        ((comparisonOf b build aliases).records b.classifications cs) b.graph build.graph =
          .ok hints := by
  obtain ⟨changed, looked⟩ := Baseline.changes_of_fit readable fit cs (build.skipped.map (·.path))
  obtain ⟨hints, hinted, -⟩ := Comparison.stable_hints (c := comparisonOf b build aliases) fit
    engine.ratio engine.config.renameThreshold b.classifications cs
  refine ⟨hints, ?_, hinted⟩
  simp only [comparisonOf] at hinted ⊢
  simp only [compare, changed, looked, hinted, wrap, bind, Except.bind, pure, Except.pure]

theorem compare_of_misfit (engine : ScanEngine) (cs : List Classification)
    (readable : Baseline.HasCurrentMajor b.schemaVersion)
    (misfit : aliases.Misfit b.graph build.graph) :
    ∃ e, engine.compare b build cs aliases = .error (.aliasing e) := by
  obtain ⟨e, refused⟩ := Baseline.changes_of_misfit readable misfit cs
    (build.skipped.map (·.path))
  exact ⟨e, by simp only [compare, refused, wrap, bind, Except.bind, ofDiffError]⟩

def Fits (build : Build) (baseline : Option Baseline) (aliases : Aliases) : Prop :=
  ∀ b, baseline = some b → build.complete = true → ¬aliases.Misfit b.graph build.graph

def Readable (baseline : Option Baseline) : Prop :=
  ∀ b, baseline = some b → Baseline.HasCurrentMajor b.schemaVersion

theorem readable_none : Readable none := fun _ hb => by cases hb

theorem summarize_cases (engine : ScanEngine) (build : Build) (cs : List Classification)
    (aliases : Aliases) (readable : Readable baseline) :
    (Fits build baseline aliases ∧
        ∃ summary, engine.summarize build baseline cs aliases = .ok summary) ∨
      (¬Fits build baseline aliases ∧
        ∃ e, engine.summarize build baseline cs aliases = .error (.aliasing e)) := by
  cases baseline with
  | none => exact Or.inl ⟨fun b hb => (by cases hb), none, rfl⟩
  | some b =>
      by_cases complete : build.complete = true
      · by_cases misfit : aliases.Misfit b.graph build.graph
        · obtain ⟨e, refused⟩ := compare_of_misfit engine cs (readable b rfl) misfit
          refine Or.inr ⟨fun fits => fits b rfl complete misfit, e, ?_⟩
          simp only [summarize, if_pos complete, refused]
          rfl
        · obtain ⟨hints, compared, -⟩ := compare_of_fit engine cs (readable b rfl) misfit
          let c := comparisonOf b build aliases
          refine Or.inl ⟨fun b' hb' _ => (Option.some.inj hb') ▸ misfit,
            some ⟨c.records b.classifications cs, hints, c.unverified⟩, ?_⟩
          simp only [summarize, if_pos complete, compared]
          rfl
      · refine Or.inl ⟨fun b' _ h => absurd h complete, none, ?_⟩
        simp only [summarize, if_neg complete]
        rfl

theorem fits_of_summarize (readable : Readable baseline) {summary : Option ChangeSummary}
    (h : engine.summarize build baseline cs aliases = .ok summary) :
    Fits build baseline aliases := by
  rcases summarize_cases engine build cs aliases readable with ⟨fits, -⟩ | ⟨-, e, he⟩
  · exact fits
  · rw [he] at h
    cases h

theorem runOn_ok_iff {x : Except BuildError Build} {r : ScanReport} :
    engine.runOn x baseline aliases = .ok r ↔
      Readable baseline ∧ ∃ build, x = .ok build ∧
        engine.report build baseline aliases = .ok r := by
  have built : (do
      let build ← wrap .build x
      engine.report build baseline aliases) = .ok r ↔
      ∃ build, x = .ok build ∧ engine.report build baseline aliases = .ok r := by
    simp only [bind_eq_ok, wrap_eq_ok]
  cases baseline with
  | none =>
      exact built.trans ⟨fun h => ⟨readable_none, h⟩, fun h => h.2⟩
  | some b =>
      have schema : Readable (some b) ↔ Baseline.checkSchema b.schemaVersion = .ok () := by
        simp [Readable, Baseline.checkSchema_ok_iff]
      rw [← built, schema]
      unfold runOn
      rw [bind_eq_ok]
      constructor
      · rintro ⟨⟨⟩, checked, h⟩
        exact ⟨wrap_eq_ok.mp checked, h⟩
      · rintro ⟨checked, h⟩
        exact ⟨(), wrap_eq_ok.mpr checked, h⟩

theorem MayReturn.exists_build {units : List SourceUnit} {cancelled : Bool} {r : ScanReport}
    (h : engine.MayReturn units baseline aliases cancelled (.ok r)) :
    Readable baseline ∧ ∃ build, Build.inOrder engine.config units cancelled = .ok build ∧
      engine.report build baseline aliases = .ok r := by
  obtain ⟨x, outcome, ran⟩ := h
  obtain ⟨readable, build, rfl, reported⟩ := runOn_ok_iff.mp ran
  exact ⟨readable, build, outcome.inOrder_eq, reported⟩

/-- Where the graph of a build can be assessed, a scan ends as the comparison does. -/
theorem runOn_eq_of_assess (aliases : Aliases) (readable : Readable baseline)
    (assessed : engine.assess build.graph = .ok (cs, fs)) :
    engine.runOn (.ok build) baseline aliases =
      (engine.summarize build baseline cs aliases).map (engine.reportOf build cs fs) := by
  have reported : engine.report build baseline aliases =
      (engine.summarize build baseline cs aliases).map (engine.reportOf build cs fs) := by
    rw [report_eq, assessed]
    cases summarized : engine.summarize build baseline cs aliases with
    | error e => simp only [bind, Except.bind, summarized, Except.map]
    | ok summary =>
        have checked : (engine.reportOf build cs fs summary).check =
            .ok (engine.reportOf build cs fs summary) :=
          ScanReport.check_ok (symbolIds_of_assess assessed)
        simp only [bind, Except.bind, summarized, checked, wrap, Except.map]
  rw [← reported]
  cases baseline with
  | none => rfl
  | some b =>
      have schema := Baseline.checkSchema_ok_iff.mpr (readable b rfl)
      unfold runOn
      simp only [schema]
      rfl

theorem runOn_of_fit (engine : ScanEngine) (aliases : Aliases) (b : Baseline)
    (readable : Baseline.HasCurrentMajor b.schemaVersion)
    (assessed : engine.assess build.graph = .ok (cs, fs)) (complete : build.complete = true)
    (fit : ¬aliases.Misfit b.graph build.graph) :
    ∃ hints, engine.runOn (.ok build) (some b) aliases =
        .ok (engine.reportOf build cs fs (some
          ⟨(comparisonOf b build aliases).records b.classifications cs, hints,
            (comparisonOf b build aliases).unverified⟩)) ∧
      RenameHint.ofChanges engine.ratio engine.config.renameThreshold
        ((comparisonOf b build aliases).records b.classifications cs) b.graph build.graph =
          .ok hints := by
  obtain ⟨hints, compared, hinted⟩ := compare_of_fit engine cs readable fit
  have readable' : Readable (some b) := fun b' hb' => Option.some.inj hb' ▸ readable
  refine ⟨hints, ?_, hinted⟩
  rw [runOn_eq_of_assess aliases readable' assessed]
  simp only [summarize, if_pos complete, compared, Except.map]

def standard (config : ScanConfig) (ratio : NameRatio := Likeness.indelRatio) : ScanEngine :=
  ⟨config, RuleRegistry.standard, ratio⟩

theorem assess_standard (config : ScanConfig) (ratio : NameRatio) (graph : SymbolGraph) :
    ∃ cs fs, (standard config ratio).assess graph = .ok (cs, fs) := by
  have catalog : (standard config ratio).registry.OfCatalog := RuleRegistry.ofCatalog_standard
  have covers : Classification.Covers (standard config ratio).registry :=
    RuleRegistry.covers_standard
  obtain ⟨report, reported, -⟩ := report_ok catalog covers ⟨graph, [], [], 0, true⟩ []
  obtain ⟨cs, fs, -, assessed, -⟩ := report_ok_iff.mp reported
  exact ⟨cs, fs, assessed⟩

/-- A scan with the standard rules gives a report on a build exactly where the aliases fit. -/
theorem runOn_standard_cases (config : ScanConfig) (ratio : NameRatio) (build : Build)
    (aliases : Aliases) (readable : Readable baseline) :
    (Fits build baseline aliases ∧ ∃ report,
        (standard config ratio).runOn (.ok build) baseline aliases = .ok report ∧
          report.complete = build.complete) ∨
      (¬Fits build baseline aliases ∧ ∃ e,
        (standard config ratio).runOn (.ok build) baseline aliases = .error (.aliasing e)) := by
  obtain ⟨cs, fs, assessed⟩ := assess_standard config ratio build.graph
  rw [runOn_eq_of_assess aliases readable assessed]
  rcases summarize_cases (standard config ratio) build cs aliases readable with
    ⟨fits, summary, h⟩ | ⟨misfit, e, h⟩
  · exact Or.inl ⟨fits, _, by rw [h]; rfl, rfl⟩
  · exact Or.inr ⟨misfit, e, by rw [h]; rfl⟩

end ScanEngine

end TacticalDesign
