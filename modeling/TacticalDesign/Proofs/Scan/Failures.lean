import TacticalDesign.Proofs.Scan.Extraction
import TacticalDesign.Proofs.Scan.Summary
/-!
# Units that fail do not fail a scan

Where a scan gives a report and some of its units are replaced by units that fail, the scan gives a
report again, with one exception: where a baseline is compared, every alias still has to lead into
the graph, and a failing unit may have held what an alias leads to.
-/

namespace TacticalDesign

namespace SourceUnit

def FailsOr (u u' : SourceUnit) : Prop := u' = u ∨ ∃ f, u'.extraction = .failed f

theorem symbols_of_failed {u : SourceUnit} {f : Failure} (h : u.extraction = .failed f) :
    u.symbols = [] := by
  simp [symbols, part?, yield?_of_failed h, Yield.part?]

end SourceUnit

/-! ## What is lost -/

def lostSymbols (units units' : List SourceUnit) : List Symbol :=
  (units.zip units').flatMap fun p =>
    match p.2.extraction with
    | .failed _ => p.1.symbols
    | _ => []

theorem lostSymbols_cons (u u' : SourceUnit) (rest rest' : List SourceUnit) :
    lostSymbols (u :: rest) (u' :: rest') =
      (match u'.extraction with
        | .failed _ => u.symbols
        | _ => []) ++ lostSymbols rest rest' := rfl

/-- A complete run loses no symbols to failing units but their own: a unit that fails leaves its
worker to the others. -/
theorem Harvest.kept_or_lost (limit : Float) {units units' : List SourceUnit}
    (replaced : List.Forall₂ SourceUnit.FailsOr units units') {workers workers' : Nat}
    (le : workers ≤ workers') (complete : (ofUnits limit workers units).complete = true) :
    ∀ s ∈ (ofUnits limit workers units).symbols,
      s ∈ (ofUnits limit workers' units').symbols ∨ s ∈ lostSymbols units units' := by
  -- Along the units, with the workers that either run has left.
  induction replaced generalizing workers workers' with
  | nil => exact fun s hs => by simp [ofUnits, symbols] at hs
  | @cons u u' rest rest' hu _ ih =>
      cases workers with
      | zero => simp [(ofUnits_zero limit (u :: rest)).1]
      | succ free =>
          obtain ⟨free', rfl⟩ := Nat.exists_eq_add_of_le' (Nat.zero_lt_of_lt le)
          have obeys := obeys_of_complete complete
          obtain ⟨symbols, completes, -⟩ := ofUnits_served limit free rest obeys
          rw [completes] at complete
          rw [symbols]
          intro s hs
          rcases hu with rfl | ⟨f, failed⟩
          · obtain ⟨symbols', -⟩ := ofUnits_served limit free' rest' obeys
            rw [symbols', lostSymbols_cons]
            rcases List.mem_append.mp hs with hs | hs
            · exact Or.inl (List.mem_append_left _ hs)
            · exact (ih (by split <;> omega) complete s hs).imp (List.mem_append_right _)
                (List.mem_append_right _)
          · obtain ⟨symbols', -⟩ := ofUnits_served limit free' rest' (u := u') (by simp [failed])
            have returns : u'.neverReturns = false := by
              simp [SourceUnit.neverReturns, SourceUnit.yield?_of_failed failed]
            rw [symbols', SourceUnit.symbols_of_failed failed, returns, lostSymbols_cons, failed]
            rcases List.mem_append.mp hs with hs | hs
            · exact Or.inr (List.mem_append_left _ hs)
            · exact (ih (by split <;> simp <;> omega) complete s hs).imp_right
                (List.mem_append_right _)

/-! ## Aliases -/

/-- Aliases that fit a baseline and one graph fit every other graph that they lead into. -/
theorem Aliases.misfit_iff_of_fit {aliases : Aliases} {old new new' : SymbolGraph}
    (fit : ¬Misfit aliases old new) :
    Misfit aliases old new' ↔ ∃ p ∈ aliases, p.2 ∉ new'.ids := by
  constructor
  · rintro (starts | leads | ⟨o, ho, o', ho', differ, same, -⟩)
    · exact absurd (Or.inl starts) fit
    · exact leads
    · exact absurd (target_injective fit ho ho' same) differ
  · exact fun leads => Or.inr (Or.inl leads)

/-! ## Scans -/

namespace ScanEngine

/-- Replacing units by failing ones leaves a scan with the standard rules a report exactly where the
aliases fit the graph that is left; the only other end is the failure of a wait that is too long.
After a complete scan, aliases that fitted fit as long as they lead into that graph, and what it
lacks are symbols of the units that fail. -/
theorem run_survives_failures (config : ScanConfig) (ratio : NameRatio)
    {units units' : List SourceUnit}
    (replaced : List.Forall₂ SourceUnit.FailsOr units units') (baseline : Option Baseline)
    (aliases : Aliases) (cancelled : Bool) {report : ScanReport}
    (ran : (standard config ratio).MayReturn units baseline aliases cancelled (.ok report)) :
    ∃ build, Build.Gives config units' cancelled build ∧
      (Fits build baseline aliases →
        ∃ report', (standard config ratio).Ends units' baseline aliases cancelled (.ok report')) ∧
      (¬Fits build baseline aliases →
        ∃ a, (standard config ratio).Ends units' baseline aliases cancelled
          (.error (.aliasing a))) ∧
      (report.complete = true →
        (baseline.isSome = true → build.complete = true →
          (Fits build baseline aliases ↔ ∀ p ∈ aliases, p.2 ∈ build.graph.ids)) ∧
        ∀ id ∈ report.graph.ids, id ∉ build.graph.ids →
          id ∈ (lostSymbols units units').map (·.id)) := by
  obtain ⟨readable, first, built, reported⟩ := ran.exists_build
  obtain ⟨cs, fs, summary, -, summarized, rfl⟩ := report_ok_iff.mp reported
  obtain ⟨build, built'⟩ := Build.inOrder_ok config units' cancelled
  refine ⟨build, Build.gives_of_inOrder built', fun fits => ?_, fun misfit => ?_,
    fun complete => ⟨fun some_baseline complete' => ?_, fun id inside outside => ?_⟩⟩
  · rcases runOn_standard_cases config ratio build aliases readable with
      ⟨-, report', again, -⟩ | ⟨misfit, -⟩
    · exact ⟨report', ends_of_runOn (standard config ratio) built' again⟩
    · exact absurd fits misfit
  · rcases runOn_standard_cases config ratio build aliases readable with ⟨fits, -⟩ | ⟨-, a, refused⟩
    · exact absurd fits misfit
    · exact ⟨a, ends_of_runOn (standard config ratio) built' refused⟩
  · obtain ⟨b, rfl⟩ := Option.isSome_iff_exists.mp some_baseline
    have fit := fits_of_summarize readable summarized b rfl complete
    have fits_iff : Fits build (some b) aliases ↔ ¬aliases.Misfit b.graph build.graph :=
      ⟨fun fits => fits b rfl complete', fun h b' hb' _ => Option.some.inj hb' ▸ h⟩
    rw [fits_iff, Aliases.misfit_iff_of_fit fit]
    push Not
    rfl
  · cases cancelled with
    | true =>
        -- A run that is cancelled before it starts is complete only without units.
        have nothing := (Build.mem_ids_iff built id).mp inside
        simp [Harvest.symbols] at nothing
    | false =>
        obtain ⟨s, hs, rfl⟩ := (Build.mem_ids_iff built id).mp inside
        have whole := (Build.complete_of_ofHarvest built).symm.trans complete
        rcases Harvest.kept_or_lost config.unitTimeout replaced le_rfl whole s hs with kept | lost
        · exact absurd ((Build.mem_ids_iff built' s.id).mpr ⟨s, kept, rfl⟩) outside
        · exact List.mem_map_of_mem lost

def oneClass (path name : String) : SourceUnit := ⟨path, "java", .declared [{ name }]⟩

def unreadable (path : String) : SourceUnit :=
  ⟨path, "java", .failed (.unparseable "broken")⟩

def baselineOfA : Baseline where
  schemaVersion := some "1.0"
  registryVersion := "1"
  registryFingerprint := ""
  graph := ⟨[(oneClass "a.java" "A").symbolOf { name := "A" }], [], by simp, by simp⟩
  classifications := []

theorem readable_baselineOfA : Readable (some baselineOfA) := by
  intro b hb
  obtain rfl := Option.some.inj hb
  exact ⟨"1.0", rfl, by decide, by decide⟩

theorem fits_alias_iff {build : Build} (complete : build.complete = true) :
    Fits build (some baselineOfA) [("a.java::A", "b.java::B")] ↔
      "b.java::B" ∈ build.graph.ids := by
  constructor
  · intro fits
    by_contra absent
    exact fits _ rfl complete (Or.inr (Or.inl ⟨_, List.mem_singleton_self _, absent⟩))
  · rintro present b hb -
    obtain rfl := Option.some.inj hb
    rintro (⟨p, hp, out⟩ | ⟨p, hp, out⟩ | ⟨o, ho, o', ho', differ, -⟩)
    · obtain rfl := List.mem_singleton.mp hp
      exact out (by decide)
    · obtain rfl := List.mem_singleton.mp hp
      exact out present
    · have only : ∀ id ∈ baselineOfA.graph.ids, id = "a.java::A" := by decide
      exact differ ((only o ho).trans (only o' ho').symm)

/-- The class `A` became the class `B` of `b.java`, and another unit fails. -/
theorem run_survives_failing_unit :
    ∃ report, (standard {}).run [oneClass "b.java" "B", unreadable "c.java"] (some baselineOfA)
      [("a.java::A", "b.java::B")] false = .ok report := by
  obtain ⟨before, builtBefore, holdsBefore, completeBefore⟩ := Build.inOrder_holds {}
    [oneClass "b.java" "B", oneClass "c.java" "C"]
  obtain ⟨after, builtAfter, holdsAfter, completeAfter⟩ := Build.inOrder_holds {}
    [oneClass "b.java" "B", unreadable "c.java"]
  have fitsBefore := (fits_alias_iff completeBefore).mpr ((holdsBefore _).mpr (by decide))
  have fitsAfter := (fits_alias_iff completeAfter).mpr ((holdsAfter _).mpr (by decide))
  have replaced : List.Forall₂ SourceUnit.FailsOr [oneClass "b.java" "B", oneClass "c.java" "C"]
      [oneClass "b.java" "B", unreadable "c.java"] :=
    .cons (Or.inl rfl) (.cons (Or.inr ⟨_, rfl⟩) .nil)
  rcases runOn_standard_cases {} _ before [("a.java::A", "b.java::B")] readable_baselineOfA with
    ⟨-, report, ran, -⟩ | ⟨misfit, -⟩
  · have returned := mayReturn_of_short (standard {}) (by decide) builtBefore ran
    obtain ⟨build, gives, reports, -, -⟩ := run_survives_failures {} _ replaced _ _ _ returned
    have same : .ok after = Except.ok build :=
      (gives _ (builtAfter ▸ Build.outcome_of_short (by decide))).resolve_right fun h => nomatch h.2
    obtain ⟨report', ends⟩ := reports (Except.ok.inj same ▸ fitsAfter)
    exact ⟨report', ends.run_eq (by decide)⟩
  · exact absurd fitsBefore misfit

/-- The class `A` became the class `B` of `b.java`, and `b.java` fails: what the alias leads to is
no longer there, so the scan is refused. -/
theorem failing_unit_loses_alias :
    SourceUnit.FailsOr (oneClass "b.java" "B") (unreadable "b.java") ∧
      (∃ report, (standard {}).run [oneClass "b.java" "B"] (some baselineOfA)
        [("a.java::A", "b.java::B")] false = .ok report) ∧
      ∃ e, (standard {}).run [unreadable "b.java"] (some baselineOfA)
        [("a.java::A", "b.java::B")] false = .error (.aliasing e) := by
  obtain ⟨before, builtBefore, holdsBefore, completeBefore⟩ := Build.inOrder_holds {}
    [oneClass "b.java" "B"]
  obtain ⟨after, builtAfter, holdsAfter, completeAfter⟩ := Build.inOrder_holds {}
    [unreadable "b.java"]
  have fitsBefore := (fits_alias_iff completeBefore).mpr ((holdsBefore _).mpr (by decide))
  have misfitAfter : ¬Fits after (some baselineOfA) [("a.java::A", "b.java::B")] := by
    rw [fits_alias_iff completeAfter, holdsAfter]
    decide
  refine ⟨Or.inr ⟨_, rfl⟩, ?_, ?_⟩
  · rcases runOn_standard_cases {} _ before [("a.java::A", "b.java::B")] readable_baselineOfA with
      ⟨-, report, ran, -⟩ | ⟨misfit, -⟩
    · exact ⟨report, (ends_of_runOn (standard {}) builtBefore ran).run_eq (by decide)⟩
    · exact absurd fitsBefore misfit
  · rcases runOn_standard_cases {} _ after [("a.java::A", "b.java::B")] readable_baselineOfA with
      ⟨fits, -⟩ | ⟨-, e, refused⟩
    · exact absurd fits misfitAfter
    · exact ⟨e, (ends_of_runOn (standard {}) builtAfter refused).run_eq (by decide)⟩

end ScanEngine

end TacticalDesign
