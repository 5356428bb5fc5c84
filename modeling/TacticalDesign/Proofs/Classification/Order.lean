import TacticalDesign.Proofs.Classification.Crew
import TacticalDesign.Proofs.Classification.Evidence
import TacticalDesign.Proofs.Graph.Proximity
import TacticalDesign.Proofs.Scan.Reordering
/-!
# The order of classifications

With several workers the symbols of a graph are classified in any order, and several of them may
fail. The outcome is that of one worker all the same: a classification of each symbol by id, or the
failure of the symbol with the least id among those that fail.
-/

namespace TacticalDesign

/-! ## Why a symbol has no verdict -/

inductive Rule.FailsFirst (rules : List Rule) (s : Symbol) (g : SymbolGraph) :
    RuleError → Prop where
  | intro (before : List Rule) (r : Rule) (after : List Rule) (e : RuleError)
      (split : rules = before ++ r :: after) (scores : ∀ q ∈ before, ∃ x, q.score s g = .ok x)
      (fails : r.score s g = .error e) : FailsFirst rules s g e

/-- Either a rule fails, or no rule scores the symbol above zero. -/
inductive Verdict.Fails (registry : RuleRegistry) (g : SymbolGraph) (s : Symbol) :
    RuleError → Prop where
  | rule (e : RuleError) (first : Rule.FailsFirst registry.rules s g e) : Fails registry g s e
  | uncovered (scores : ∀ r ∈ registry.rules, ∃ x, r.score s g = .ok x ∧ ¬ 0 < x) :
      Fails registry g s (.uncovered s.id)

theorem Ballot.scores_or_fails (s : Symbol) (g : SymbolGraph) (rules : List Rule) :
    (∀ r ∈ rules, ∃ x, r.score s g = .ok x) ∨
      ∃ e, Rule.FailsFirst rules s g e ∧ cast s g rules = .error e := by
  induction rules with
  | nil => exact Or.inl (by simp)
  | cons r rest ih =>
      cases hr : r.score s g with
      | error e =>
          exact Or.inr ⟨e, ⟨[], r, rest, e, rfl, by simp, hr⟩, by simp only [cast, hr]⟩
      | ok x =>
          rcases ih with scores | ⟨e, ⟨before, q, after, _, split, scores, fails⟩, hcast⟩
          · exact Or.inl (List.forall_mem_cons.mpr ⟨⟨x, hr⟩, scores⟩)
          · refine Or.inr ⟨e, ⟨r :: before, q, after, e, by rw [split]; rfl, ?_, fails⟩, ?_⟩
            · exact List.forall_mem_cons.mpr ⟨⟨x, hr⟩, scores⟩
            · simp only [cast, hr, hcast]

theorem Verdict.ofBallots_nil {V : Type} [Vote V] (config : ScanConfig) :
    (ofBallots config [] : Option (Verdict V)) = none := by
  have no_votes : RoleVote.rank (Ballot.count ([] : List Ballot) : List (RoleVote V)) = [] :=
    List.mergeSort_nil
  simp only [ofBallots, no_votes]

theorem Verdict.fails_of_error {V : Type} [Vote V] {registry : RuleRegistry} {config : ScanConfig}
    {g : SymbolGraph} {s : Symbol} {e : RuleError}
    (h : (of registry config g s : Except RuleError (Verdict V)) = .error e) :
    Fails registry g s e := by
  rcases Ballot.scores_or_fails s g registry.rules with scores | ⟨e', first, hcast⟩
  · obtain ⟨ballots, hcast, hmem⟩ := Ballot.cast_ok scores
    by_cases none_cast : ballots = []
    · subst none_cast
      simp only [of, hcast, ofBallots_nil] at h
      cases h
      refine .uncovered fun r hr => ?_
      obtain ⟨x, hx⟩ := scores r hr
      exact ⟨x, hx, fun pos => List.not_mem_nil ((hmem ⟨r, x⟩).mpr ⟨hr, hx, pos⟩)⟩
    · obtain ⟨v, hv, -⟩ := ofBallots_ok (V := V) config none_cast
      simp only [of, hcast, hv] at h
      cases h
  · simp only [of, hcast] at h
    cases h
    exact .rule e first

namespace Classification

variable {registry : RuleRegistry} {config : ScanConfig} {graph : SymbolGraph}

theorem fails_of_ofSymbol {s : Symbol} {e : RuleError}
    (h : ofSymbol registry config graph s = .error e) : Verdict.Fails registry graph s e := by
  unfold ofSymbol at h
  split at h
  · rename_i failed
    cases h
    exact Verdict.fails_of_error failed
  · cases h

/-! ## The symbols of a graph -/

/-- Every symbol with its classification, or the failure of the first symbol that fails. -/
inductive InOrder (registry : RuleRegistry) (config : ScanConfig) (graph : SymbolGraph) :
    Except RuleError (List Classification) → Prop where
  | all (cs : List Classification) (ids : cs.map (·.symbolId) = graph.ids)
      (ascend : (cs.map (·.symbolId)).Pairwise (· < ·))
      (each : List.Forall₂ (fun s c => ofSymbol registry config graph s = .ok c) graph.symbols cs) :
      InOrder registry config graph (.ok cs)
  | first (s : Symbol) (e : RuleError) (inside : s ∈ graph.symbols)
      (fails : ofSymbol registry config graph s = .error e) (why : Verdict.Fails registry graph s e)
      (before : ∀ t ∈ graph.symbols, t.id < s.id → ∃ c, ofSymbol registry config graph t = .ok c) :
      InOrder registry config graph (.error e)

theorem inOrder_ofGraph (registry : RuleRegistry) (config : ScanConfig) (graph : SymbolGraph) :
    InOrder registry config graph (ofGraph registry config graph) := by
  rw [ofGraph, ofSymbols_eq_mapM]
  cases h : graph.symbols.mapM (ofSymbol registry config graph) with
  | ok cs =>
      have ids : cs.map (·.symbolId) = graph.ids := map_of_mapM symbolId_of_ofSymbol h
      refine .all cs ids ?_ (forall₂_of_mapM h)
      rw [ids, SymbolGraph.ids, List.pairwise_map]
      exact graph.symbols_ascend
  | error e =>
      obtain ⟨earlier, s, later, split, fine, fails⟩ := mapM_error_split h
      have inside : s ∈ graph.symbols := split ▸ List.mem_append_right _ List.mem_cons_self
      refine .first s e inside fails (fails_of_ofSymbol fails) fun t ht below => ?_
      have ascend := graph.symbols_ascend
      rw [split] at ht ascend
      rcases List.mem_append.mp ht with ht | ht
      · exact fine t ht
      · rcases List.mem_cons.mp ht with rfl | ht
        · exact absurd below (String.lt_irrefl t.id)
        · have above := List.rel_of_pairwise_cons (List.pairwise_append.mp ascend).2.1 ht
          exact absurd (String.lt_trans below above) (String.lt_irrefl t.id)

abbrev CrewRun (registry : RuleRegistry) (config : ScanConfig) (graph : SymbolGraph) :
    Nat → Crew RuleError Classification → Crew RuleError Classification → Prop :=
  Crew.Run (ofSymbol registry config graph) graph.symbols config.maxWorkers.toNat

/-- How the classification of a graph may end. One worker and a lone symbol need no crew. -/
inductive MayEnd (registry : RuleRegistry) (config : ScanConfig) (graph : SymbolGraph) :
    Except RuleError (List Classification) → Prop where
  | alone (lone : config.maxWorkers = 1 ∨ graph.symbols.length < 2) :
      MayEnd registry config graph (ofGraph registry config graph)
  | crewed (several : config.maxWorkers ≠ 1 ∧ 2 ≤ graph.symbols.length) {n : Nat}
      {s : Crew RuleError Classification} {outcome : Except RuleError (List Classification)}
      (run : CrewRun registry config graph n .start s) (ended : s.phase = .ended outcome) :
      MayEnd registry config graph outcome

theorem MayEnd.eq_ofGraph {outcome : Except RuleError (List Classification)}
    (h : MayEnd registry config graph outcome) : outcome = ofGraph registry config graph := by
  cases h with
  | alone lone => rfl
  | crewed several run ended =>
      rw [ofGraph, ofSymbols_eq_mapM]
      exact (Crew.run_from_start run).2 outcome ended

theorem mayEnd_ofGraph (employs : 0 < config.maxWorkers) :
    MayEnd registry config graph (ofGraph registry config graph) := by
  by_cases several : config.maxWorkers ≠ 1 ∧ 2 ≤ graph.symbols.length
  · have sound := Crew.sound_start (ofSymbol registry config graph) graph.symbols
    obtain ⟨n, s, outcome, run, ended⟩ := sound.can_end (Int.lt_toNat.mpr employs)
    have possible : MayEnd registry config graph outcome := .crewed several run ended
    exact possible.eq_ofGraph ▸ possible
  · exact .alone (by omega)

/-- However the work is shared out, the classification of a graph comes to its end, there is only
one outcome, it is that of a single worker, and it is in the order of the symbols. -/
theorem classified_in_order (registry : RuleRegistry) (config : ScanConfig) (graph : SymbolGraph)
    (employs : 0 < config.maxWorkers) :
    (∃ outcome, InOrder registry config graph outcome ∧
      ∀ other, MayEnd registry config graph other ↔ other = outcome) ∧
    (∀ outcome, MayEnd registry config graph outcome ↔
      MayEnd registry (config.withWorkers 1) graph outcome) ∧
    ∀ n s, CrewRun registry config graph n .start s → n ≤ 4 * graph.symbols.length + 3 ∧
      ∃ m t outcome, CrewRun registry config graph m s t ∧ t.phase = .ended outcome := by
  have only : ∀ {config : ScanConfig}, 0 < config.maxWorkers → ∀ outcome,
      MayEnd registry config graph outcome ↔ outcome = ofGraph registry config graph :=
    fun employs outcome => ⟨MayEnd.eq_ofGraph, fun e => e ▸ mayEnd_ofGraph employs⟩
  refine ⟨⟨_, inOrder_ofGraph registry config graph, only employs⟩, fun outcome => ?_, ?_⟩
  · have same : ofGraph registry (config.withWorkers 1) graph = ofGraph registry config graph :=
      ScanEngine.ofSymbols_withWorkers registry config 1 graph graph.symbols
    rw [only employs, @only (config.withWorkers 1) Int.one_pos, same]
  · intro n s run
    have sound := (Crew.sound_start _ _).run run
    exact ⟨(Crew.run_from_start run).1, sound.can_end (Int.lt_toNat.mpr employs)⟩

def shopRule : Rule where
  id := "EN-001"
  role := .entity
  predicate s _ :=
    if s.nameSpace = "shop" then .failed (.value "no") else .value (.bool true)
  weight := .int 1
  description := "fails inside the shop"

/-- Two of four symbols fail, and four workers report the first of them. -/
theorem crew_reports_cart :
    MayEnd ⟨"1", [shopRule]⟩ {} SymbolGraph.shop =
      (· = .error (.predicateFailed "EN-001" "b.java::shop.Cart" (.value "no"))) := by
  obtain ⟨⟨result, -, only⟩, serial, -⟩ :=
    classified_in_order ⟨"1", [shopRule]⟩ {} SymbolGraph.shop (by decide)
  have of_one := (only _).mp ((serial _).mpr (.alone (Or.inl rfl)))
  funext outcome
  rw [only, ← of_one]
  with_unfolding_all rfl

end Classification

end TacticalDesign
