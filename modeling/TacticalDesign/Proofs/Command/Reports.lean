import TacticalDesign.Proofs.Command.Stages
import TacticalDesign.Proofs.Scan.Capture
/-!
# Reports of commands

However a build went, its symbols are those of some of its units, and a command goes by rules of
the catalog. So every report of a command makes a baseline that is read back.
-/

namespace TacticalDesign

theorem Pool.Run.symbols_of_harvest {config : ScanConfig} {units : List SourceUnit}
    {actions : List Pool.Action} {s : Pool} {complete : Bool}
    (run : Pool.Run (.ofConfig config units) (.submitted units.length) actions s) {x : Symbol}
    (hx : x ∈ (s.harvest units.length complete).symbols) : ∃ u ∈ units, x ∈ u.symbols := by
  obtain ⟨p, hp, hx⟩ := List.mem_flatMap.mp hx
  obtain ⟨i, -, found⟩ := List.mem_filterMap.mp hp
  have part : (Workload.ofConfig config units).partAt? i = some p := run.partAt?_of_parts found
  obtain ⟨y, yielded, part⟩ := Option.bind_eq_some_iff.mp part
  obtain ⟨u, here, yielded⟩ := Option.bind_eq_some_iff.mp yielded
  refine ⟨u, List.mem_of_getElem? here, ?_⟩
  have made : u.part? = some p := Option.bind_eq_some_iff.mpr ⟨y, yielded, part⟩
  rw [SourceUnit.symbols, made]
  exact hx

theorem Build.MayCome.exists_harvest {config : ScanConfig} {units : List SourceUnit} {b : Build}
    (h : MayCome config units (.ok b)) :
    ∃ harvest : Harvest, ofHarvest units.length harvest = .ok b ∧
      ∀ s ∈ harvest.symbols, ∃ u ∈ units, s ∈ u.symbols := by
  generalize made : Except.ok b = x at h
  cases h with
  | undisturbed outcome =>
      subst made
      exact Build.exists_harvest outcome.inOrder_eq
  | @disturbed actions s x run gives =>
      subst made
      unfold Pool.result? at gives
      split at gives
      · exact ⟨_, Option.some.inj gives, fun s hs => run.symbols_of_harvest hs⟩
      · cases gives
      · cases gives

namespace Command

variable {tools : Tools} {t t' : FileTree} {request : ScanRequest} {rootPath : String}
  {r : ScanReport}

def Faithful (frontEnd : FrontEnd) : Prop :=
  ∀ content units, frontEnd content = .ok units → ∀ u ∈ units, u.extraction.Canonical

theorem faithful_ofDocument : Faithful SourceUnit.ofDocument :=
  fun _ _ h => SourceUnit.canonical_ofDocument h

theorem canonical_unitsOf (faithful : Faithful tools.frontEnd) {source : Source}
    {units : List SourceUnit} (h : unitsOf tools t source = .ok (rootPath, units)) :
    ∀ u ∈ units, u.extraction.Canonical := by
  unfold unitsOf at h
  split at h
  · cases h
  · obtain ⟨⟨place, entry⟩, -, h⟩ := bind_eq_ok.mp h
    dsimp only at h
    split at h
    · obtain ⟨-, -, h⟩ := bind_eq_ok.mp h
      obtain ⟨units', found, h⟩ := bind_eq_ok.mp h
      obtain ⟨-, rfl⟩ := Prod.mk.inj (Except.ok.inj h)
      exact Project.canonical_discover (stopWith_eq_ok.mp found)
    · cases h
  · obtain ⟨⟨place, entry⟩, -, h⟩ := bind_eq_ok.mp h
    obtain ⟨content, -, h⟩ := bind_eq_ok.mp h
    obtain ⟨units', found, h⟩ := bind_eq_ok.mp h
    obtain ⟨-, rfl⟩ := Prod.mk.inj (Except.ok.inj h)
    exact faithful _ _ (stopWith_eq_ok.mp found)

/-- However a scan is compared, its report is otherwise one on a build. -/
theorem MayScan.exists_report {setup : Setup} {baseline : Option Baseline} {mistyped : Prop}
    (h : MayScan setup baseline mistyped (.ok r)) :
    ∃ baseline' b r', Build.MayCome setup.engine.config setup.units (.ok b) ∧
      setup.engine.report b baseline' setup.aliases = .ok r' ∧
      r.capture setup.rootPath = r'.capture setup.rootPath := by
  generalize made : Except.ok r = x at h
  cases h with
  | reported came =>
      obtain ⟨-, b, built, reported⟩ :=
        ScanEngine.runOn_ok_iff.mp (stopWith_eq_ok.mp made.symm)
      exact ⟨baseline, b, r, built ▸ came, reported, rfl⟩
  | @compared b r' x wrong came complete reported compares =>
      obtain ⟨-, b', built, reported⟩ := ScanEngine.runOn_ok_iff.mp reported
      obtain rfl := Except.ok.inj built
      cases compares with
      | compared changes renameHints unverifiedSymbols =>
          obtain rfl := Except.ok.inj made
          exact ⟨none, b, r', came, reported, rfl⟩
      | refused message => cases made
      | failed message => cases made

theorem canonical_of_survey (faithful : Faithful tools.frontEnd) {scans : Scans}
    (feasible : Feasible t request scans)
    (h : survey tools t request scans = (t', .ok (rootPath, r))) :
    (r.capture rootPath).Canonical := by
  obtain ⟨setup, baseline, settled, scanned, rfl⟩ := survey_ok h
  obtain ⟨-, ruled, found⟩ := setup_ok settled
  have known : setup.engine.registry.Known := (catalog_of_registryOf ruled).known
  have canonical := canonical_unitsOf faithful found
  obtain ⟨baseline', b, r', came, reported, same⟩ :=
    (scanned ▸ feasible setup baseline : MayScan _ _ _ (.ok r)).exists_report
  obtain ⟨harvest, made, extracted⟩ := came.exists_harvest
  rw [same]
  exact ScanEngine.canonical_of_report known canonical made extracted reported setup.rootPath

/-- A baseline that was written, be it to a file or to a store, is not mistyped. -/
theorem not_mistyped_of_written {b : Baseline} (canonical : b.Canonical)
    (written : (∃ path, request.arguments.reference = some (.file path) ∧
        t.read (.ofText path) = .ok (bytesOf b.toJson.indentedText)) ∨
      ∃ path, request.arguments.reference = some (.store path) ∧
        storedText? t path rootPath = some b.toJson.lineText) :
    ¬Mistyped t request rootPath := by
  have readable := Baseline.readable_toJson canonical
  have typed := BaselineReader.isTyped_reordered Json.isReordering_reread b
  rintro ⟨document, found, wrong⟩
  have same : document = b.toJson.reread := by
    unfold referenceDocument? at found
    rcases written with ⟨path, reference, holds⟩ | ⟨path, reference, stored⟩
    · rw [reference] at found
      simp only [holds, Document.read, bytesOf, Document.parse_encode readable,
        Except.toOption] at found
      exact (Option.some.inj found).symm
    · rw [reference] at found
      simp only [stored, Option.bind_some, Json.parse_lineText readable, Except.toOption] at found
      exact (Option.some.inj found).symm
  rw [same, typed] at wrong
  cases wrong

end Command

end TacticalDesign
