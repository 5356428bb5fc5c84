import TacticalDesign.Proofs.Command.Stages
import TacticalDesign.Proofs.Config.Limits
import TacticalDesign.Proofs.Registry.Overrides
import TacticalDesign.Proofs.Scan.Summary
/-!
# Causes of failures

Some failures of a configuration, of rule overrides and of a scan have no message of their own. Each
is followed to what it is due to: a number beyond the largest float, or a wait that is too long.
-/

namespace TacticalDesign

/-! ## Numbers beyond the largest float -/

namespace ScanConfig

theorem tooLarge_of_ofOverrides {members : List (String × Json)}
    (h : ofOverrides members = .error .tooLarge) :
    ∃ key n, (key, Json.number n) ∈ members ∧ n.toFloat? = none := by
  obtain ⟨before, ⟨key, value⟩, after, rfl, -, -, i, rfl, large⟩ :=
    overrideAll_tooLarge_iff.mp (ofOverrides_tooLarge_iff.mp h).2
  exact ⟨key, .int i, List.mem_append_right _ List.mem_cons_self,
    (Number.toFloat?_int_eq_none_iff i).mpr large⟩

end ScanConfig

/-- Whether an error of a rule has no message of its own. -/
inductive RuleError.Mute : RuleError → Prop where
  | tooLarge : Mute .tooLarge
  | escaped (f : Failure) : Mute (.escaped f)

namespace RuleRegistry

variable {e : RuleError}

theorem tooLarge_of_check {r : Rule} {weight : Json} {seen : List String}
    (h : (candidateOf r weight).check seen = .error e) (mute : e.Mute) :
    e = .tooLarge ∧ ∃ n, weight = .number n ∧ n.toFloat? = none := by
  unfold candidateOf RuleCandidate.check at h
  simp only at h
  split at h
  · cases h
    cases mute
  split at h
  · cases h
    cases mute
  split at h
  · cases h
    cases mute
  split at h
  · rename_i refused
    obtain rfl := Except.error.inj h
    unfold RuleCandidate.checkWeight at refused
    split at refused
    · split at refused
      · rename_i large
        exact ⟨(Except.error.inj refused).symm, _, rfl, large⟩
      · split at refused <;> cases refused
        cases mute
    · cases refused
      cases mute
  split at h
  · rename_i refused
    obtain rfl := Except.error.inj h
    unfold RuleCandidate.checkDescription at refused
    split at refused
    · simp only at refused
      split at refused <;> cases refused
      cases mute
    · cases refused
      cases mute
  · cases h

/-- Rules that score every symbol are refused without a message only for weights that are too
large. -/
theorem tooLarge_of_acceptAll {kept : List Rule} {weight : Rule → Json} {seen : List String}
    (known : ∀ r ∈ kept, r.role.isKnown = true)
    (scores : ∀ r ∈ kept, ∃ x, r.score sampleSymbol sampleGraph = .ok x)
    (h : acceptAll seen (kept.map fun r => candidateOf r (weight r)) = .error e) (mute : e.Mute) :
    e = .tooLarge ∧ ∃ r ∈ kept, ∃ n, weight r = .number n ∧ n.toFloat? = none := by
  induction kept generalizing seen with
  | nil => cases h
  | cons r rest ih =>
      rcases acceptAll_cons_error_iff.mp h with refused | ⟨accepted, -, later⟩
      · rcases RuleCandidate.enroll_error_iff.mp refused with refused | ⟨accepted, checked, failed⟩
        · obtain ⟨rfl, n, value, large⟩ := tooLarge_of_check refused mute
          exact ⟨rfl, r, List.mem_cons_self, n, value, large⟩
        · obtain ⟨reweighs, -⟩ := reweighs_of_check (known r List.mem_cons_self) checked
          obtain ⟨x, scored⟩ := scores r List.mem_cons_self
          rw [reweighs.score_eq, scored] at failed
          cases failed
      · obtain ⟨rfl, q, hq, found⟩ := ih (fun q hq => known q (List.mem_cons_of_mem r hq))
          (fun q hq => scores q (List.mem_cons_of_mem r hq)) later
        exact ⟨rfl, q, List.mem_cons_of_mem r hq, found⟩

theorem OfCatalog.scores {registry : RuleRegistry} (h : registry.OfCatalog) {r : Rule}
    (hr : r ∈ registry.rules) : RuleCatalog.Scores r := by
  intro s g
  obtain ⟨q, hq, hrq⟩ := h.rules r hr
  rw [hrq.score_eq]
  exact RuleCatalog.scores_of_mem q hq s g

/-- Overrides of the standard rules are refused without a message only for a weight among them that
is too large. -/
theorem tooLarge_of_withOverrides {o : Overrides} (h : standard.withOverrides o = .error e)
    (mute : e.Mute) :
    e = .tooLarge ∧ ∃ id n, Json.lookup id o.weights = some (.number n) ∧ n.toFloat? = none := by
  have within : ∀ r ∈ o.kept standard, r ∈ RuleCatalog.rules :=
    fun r hr => List.mem_mergeSort.mp (List.mem_of_mem_filter hr)
  rcases withOverrides_cases standard o with ⟨ids, unknown⟩ | ⟨version, made⟩
  · rw [unknown] at h
    cases h
    cases mute
  rw [made] at h
  unfold ofCandidates at h
  split at h
  · split at h
    · cases h
      cases mute
    split at h
    · cases h
      cases mute
    split at h
    · rename_i refused
      obtain rfl := Except.error.inj h
      obtain ⟨rfl, r, hr, n, weight, large⟩ := tooLarge_of_acceptAll
        (fun r hr => known_of_mem_catalog r (within r hr))
        (fun r hr => RuleCatalog.scores_of_mem r (within r hr) _ _) refused mute
      refine ⟨rfl, ?_⟩
      unfold Overrides.weightOf at weight
      cases found : Json.lookup r.id o.weights with
      | some value =>
          rw [found] at weight
          exact ⟨r.id, n, found.trans (congrArg some weight), large⟩
      | none =>
          -- the built-in weights are small
          have small : ∀ r ∈ RuleCatalog.rules, r.weight.toFloat?.isSome = true := by
            decide +kernel
          rw [found] at weight
          obtain rfl : r.weight = n := Json.number.inj weight
          exact absurd (small r (within r hr)) (by simp [large])
    · cases h
  · cases h
    cases mute

end RuleRegistry

/-! ## Scans -/

/-- A build fails over its graph, or because it would have to wait for too long. -/
theorem Build.MayCome.error {config : ScanConfig} {units : List SourceUnit} {e : BuildError}
    (h : MayCome config units (.error e)) :
    (∃ g, e = .graph g) ∨ e = .waitTooLong ∧ longestWait < config.pollInterval := by
  have of_harvest {n : Nat} {harvest : Harvest} {e : BuildError}
      (h : ofHarvest n harvest = .error e) : ∃ g, e = .graph g := by
    unfold ofHarvest at h
    split at h
    · exact ⟨_, (Except.error.inj h).symm⟩
    · cases h
  have of_outcome {e : BuildError} (h : Outcome config units false (.error e)) :
      (∃ g, e = .graph g) ∨ e = .waitTooLong ∧ longestWait < config.pollInterval := by
    rcases h.cases with same | ⟨long, same⟩
    · exact Or.inl (of_harvest same.symm)
    · exact Or.inr ⟨Except.error.inj same, (overdraws_iff.mp long).2.2⟩
  generalize failed : Except.error e = x at h
  cases h with
  | undisturbed outcome => exact of_outcome (failed ▸ outcome)
  | disturbed run gives =>
      subst failed
      unfold Pool.result? at gives
      split at gives
      · exact Or.inl (of_harvest (Option.some.inj gives))
      · rename_i drawn
        exact Or.inr ⟨(Except.error.inj (Option.some.inj gives)).symm, (run.overlong drawn).1⟩
      · cases gives

namespace ScanEngine

variable {engine : ScanEngine} {build : Build} {baseline : Option Baseline} {aliases : Aliases}
  {graph : SymbolGraph} {e : ScanError}

theorem wrap_eq_error {ε α : Type} {f : ε → ScanError} {x : Except ε α} :
    wrap f x = .error e ↔ ∃ e', x = .error e' ∧ f e' = e := by
  cases x <;> simp [wrap]

theorem uncovered_of_ofGraph (catalog : engine.registry.OfCatalog) {e : RuleError}
    (h : Classification.ofGraph engine.registry engine.config graph = .error e) :
    ∃ id, e = .uncovered id := by
  rw [Classification.ofGraph, Classification.ofSymbols_eq_mapM] at h
  obtain ⟨s, -, failed⟩ := exists_of_mapM_error h
  obtain ⟨ballots, counted, -⟩ := Ballot.cast_ok fun r hr => catalog.scores hr s graph
  unfold Classification.ofSymbol at failed
  split at failed
  · rename_i refused
    obtain rfl := Except.error.inj failed
    simp only [Verdict.of, counted] at refused
    split at refused
    · exact ⟨s.id, (Except.error.inj refused).symm⟩
    · cases refused
  · cases failed

theorem reported_of_report (catalog : engine.registry.OfCatalog) (readable : Readable baseline)
    (h : engine.report build baseline aliases = .error e) :
    Command.ofScanError e = .reported e.message := by
  rw [report_eq] at h
  rcases bind_eq_error.mp h with assessed | ⟨⟨cs, fs⟩, -, h⟩
  · rcases bind_eq_error.mp assessed with classified | ⟨classified, -, explained⟩
    · obtain ⟨e', failed, rfl⟩ := wrap_eq_error.mp classified
      obtain ⟨id, rfl⟩ := uncovered_of_ofGraph catalog failed
      rfl
    rcases bind_eq_error.mp explained with failed | ⟨es, -, found⟩
    · obtain ⟨e', -, rfl⟩ := wrap_eq_error.mp failed
      rfl
    rcases bind_eq_error.mp found with failed | ⟨es', -, failed⟩
    · obtain ⟨e', -, rfl⟩ := wrap_eq_error.mp failed
      rfl
    · cases failed
  rcases bind_eq_error.mp h with failed | ⟨summary, -, failed⟩
  · rcases summarize_cases engine build cs aliases readable with
      ⟨-, summary, summarized⟩ | ⟨-, e', misfit⟩
    · rw [summarized] at failed
      cases failed
    · rw [misfit] at failed
      obtain rfl := Except.error.inj failed
      rfl
  · obtain ⟨e', -, rfl⟩ := wrap_eq_error.mp failed
    rfl

/-- A scan by rules of the catalog stops with a message, unless its build would have to wait for too
long. -/
theorem stop_of_runOn (catalog : engine.registry.OfCatalog) {units : List SourceUnit}
    {build : Except BuildError Build} (feasible : Build.MayCome engine.config units build)
    (h : engine.runOn build baseline aliases = .error e) :
    Command.ofScanError e = .reported e.message ∨
      Command.ofScanError e = .aborted .waitTooLong ∧
        Build.longestWait < engine.config.pollInterval := by
  have behind (readable : Readable baseline)
      (h : (do let b ← wrap .build build; engine.report b baseline aliases) = .error e) :
      Command.ofScanError e = .reported e.message ∨
        Command.ofScanError e = .aborted .waitTooLong ∧
          Build.longestWait < engine.config.pollInterval := by
    rcases bind_eq_error.mp h with failed | ⟨b, -, failed⟩
    · obtain ⟨e', rfl, rfl⟩ := wrap_eq_error.mp failed
      rcases feasible.error with ⟨g, rfl⟩ | ⟨rfl, long⟩
      · exact Or.inl rfl
      · exact Or.inr ⟨rfl, long⟩
    · exact Or.inl (reported_of_report catalog readable failed)
  unfold runOn at h
  cases baseline with
  | none => exact behind (fun b hb => by cases hb) h
  | some b =>
      rcases bind_eq_error.mp h with failed | ⟨⟨⟩, checked, h⟩
      · obtain ⟨m, -, rfl⟩ := wrap_eq_error.mp failed
        exact Or.inl rfl
      · refine behind (fun b' hb' => ?_) h
        obtain rfl := Option.some.inj hb'
        exact Baseline.checkSchema_ok_iff.mp (wrap_eq_ok.mp checked)

end ScanEngine

end TacticalDesign
