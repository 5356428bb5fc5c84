import TacticalDesign.AntiPattern
import TacticalDesign.Build
import TacticalDesign.Rationale
import TacticalDesign.Report
import TacticalDesign.Verdict
/-!
# Scans

One run from source units to a report. A baseline is compared only with a complete build.
-/

namespace TacticalDesign

inductive ScanError where
  | schema (m : SchemaMismatch)
  | build (e : BuildError)
  | rule (e : RuleError)
  | rationale (e : RationaleError)
  | aliasing (e : AliasError)
  /-- A change names a symbol that neither graph holds. -/
  | missingSymbol (id : String)
  | coverage (e : CoverageError)

def ScanError.message : ScanError → String
  | schema m => m.message
  | build e => e.message
  | rule e => e.message
  | rationale e => e.message
  | aliasing e => e.message
  | missingSymbol id => Text.quoted id
  | coverage e => e.message

structure ScanEngine where
  config : ScanConfig
  registry : RuleRegistry
  ratio : NameRatio := Likeness.indelRatio

/-- What a comparison with a baseline adds to a report. -/
structure ChangeSummary where
  changes : List ChangeRecord
  renameHints : List RenameHint
  unverified : List String

namespace ScanEngine

def wrap {ε α : Type} (f : ε → ScanError) : Except ε α → Except ScanError α
  | .ok a => .ok a
  | .error e => .error (f e)

def ofDiffError : DiffError → ScanError
  | .schema m => .schema m
  | .aliasing e => .aliasing e

def compare (engine : ScanEngine) (baseline : Baseline) (build : Build)
    (current : List Classification) (aliases : Aliases) : Except ScanError ChangeSummary := do
  let skippedPaths := build.skipped.map (·.path)
  let changes ← wrap ofDiffError (baseline.changes build.graph current aliases skippedPaths)
  let hints ← wrap .missingSymbol
    (RenameHint.ofChanges engine.ratio engine.config.renameThreshold changes baseline.graph
      build.graph)
  let unverified ← wrap .aliasing (baseline.unverified build.graph aliases skippedPaths)
  return ⟨changes, hints, unverified⟩

def report (engine : ScanEngine) (build : Build) (baseline : Option Baseline)
    (aliases : Aliases) : Except ScanError ScanReport := do
  let classified ← wrap .rule (Classification.ofGraph engine.registry engine.config build.graph)
  let found := AntiPattern.detect engine.config build.graph
    (classified.map fun c => (c.symbolId, c.role))
  let classifications ← wrap .rationale (Classification.explainAll engine.registry classified)
  let findings ← wrap .rationale (Finding.explainAll found)
  let summary ← match baseline with
    | some b =>
      if build.complete then
        (engine.compare b build classifications aliases).map some
      else pure none
    | none => pure none
  wrap .coverage (ScanReport.check {
    registryVersion := engine.registry.version
    registryFingerprint := engine.registry.fingerprint
    complete := build.complete
    unitCount := build.unitCount
    processedPaths := build.processedPaths
    classifications
    findings
    skipped := build.skipped
    changes := summary.map (·.changes)
    renameHints := (summary.map (·.renameHints)).getD []
    unverifiedSymbols := (summary.map (·.unverified)).getD []
    graph := build.graph })

/-- A scan on whatever came of its build. The schema of a baseline is looked at before anything
else. -/
def runOn (engine : ScanEngine) (build : Except BuildError Build) (baseline : Option Baseline)
    (aliases : Aliases) : Except ScanError ScanReport := do
  match baseline with
  | some b => wrap .schema (Baseline.checkSchema b.schemaVersion)
  | none => pure ()
  let build ← wrap .build build
  engine.report build baseline aliases

def run (engine : ScanEngine) (units : List SourceUnit) (baseline : Option Baseline)
    (aliases : Aliases) (cancelled : Bool) : Except ScanError ScanReport :=
  engine.runOn (Build.ofUnits engine.config units cancelled) baseline aliases

/-- What a scan may come to that nobody disturbs. -/
def MayReturn (engine : ScanEngine) (units : List SourceUnit) (baseline : Option Baseline)
    (aliases : Aliases) (cancelled : Bool) (x : Except ScanError ScanReport) : Prop :=
  ∃ build, Build.Outcome engine.config units cancelled build ∧
    engine.runOn build baseline aliases = x

/-- Whether a scan ends in one way in every outcome but the failure of a wait that is too long. -/
def Ends (engine : ScanEngine) (units : List SourceUnit) (baseline : Option Baseline)
    (aliases : Aliases) (cancelled : Bool) (x : Except ScanError ScanReport) : Prop :=
  ∀ y, engine.MayReturn units baseline aliases cancelled y →
    y = x ∨ Build.overdraws engine.config units cancelled = true ∧
      y = .error (.build .waitTooLong)

end ScanEngine

structure IncompleteReport where

def IncompleteReport.message (_ : IncompleteReport) : String :=
  "An incomplete report cannot be stored as a baseline."

namespace ScanReport

/-- The classified graph of a report under the current schema tag. -/
def capture (r : ScanReport) (rootPath : String) : Baseline where
  schemaVersion := some Baseline.currentSchema
  registryVersion := r.registryVersion
  registryFingerprint := r.registryFingerprint
  graph := r.graph
  classifications := r.classifications
  rootPath := rootPath

def toBaseline (r : ScanReport) (rootPath : String) : Except IncompleteReport Baseline :=
  if r.complete then .ok (r.capture rootPath) else .error {}

end ScanReport

end TacticalDesign
