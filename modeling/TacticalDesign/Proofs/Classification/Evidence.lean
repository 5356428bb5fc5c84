import Mathlib.Data.List.Forall2
import TacticalDesign.Proofs.Except
import TacticalDesign.Proofs.Order
import TacticalDesign.Proofs.Registry.Overrides
import TacticalDesign.Rationale
import TacticalDesign.Verdict
/-!
# The evidence of a classification

Every built-in rule scores every symbol, and of the two fallback rules one scores it above zero.
So a registry of catalog rules with both fallbacks finds a role for every symbol, and the evidence
it gives are the rules of that role that scored the symbol above zero.
-/

namespace TacticalDesign

/-! ## Scores -/

def IsShare (x : Float) : Prop := x = 0 ∨ x = 0.5 ∨ x = 1

namespace RuleCatalog

def Scores (r : Rule) : Prop := ∀ s g, ∃ x, r.score s g = .ok x

@[simp] theorem role_flag (id : String) (role : Role) (weight : Float) (description : String)
    (test : Symbol → SymbolGraph → Bool) : (flag id role weight description test).role = role := rfl

@[simp] theorem role_graded (id : String) (role : Role) (weight : Float) (description : String)
    (score : Symbol → SymbolGraph → Float) :
    (graded id role weight description score).role = role := rfl

theorem score_flag (id : String) (role : Role) (weight : Float) (description : String)
    (test : Symbol → SymbolGraph → Bool) (s : Symbol) (g : SymbolGraph) :
    (flag id role weight description test).score s g = .ok (if test s g then 1 else 0) := rfl

theorem scores_flag (id : String) (role : Role) (weight : Float) (description : String)
    (test : Symbol → SymbolGraph → Bool) : Scores (flag id role weight description test) :=
  fun s g => ⟨_, score_flag id role weight description test s g⟩

theorem score_graded (id : String) (role : Role) (weight : Float) (description : String)
    {score : Symbol → SymbolGraph → Float} {s : Symbol} {g : SymbolGraph}
    (share : IsShare (score s g)) :
    (graded id role weight description score).score s g = .ok (score s g) := by
  unfold Rule.score graded
  simp only [Number.toFloat?]
  rcases share with h | h | h <;> rw [h] <;> rfl

theorem scores_graded (id : String) (role : Role) (weight : Float) (description : String)
    {score : Symbol → SymbolGraph → Float} (share : ∀ s g, IsShare (score s g)) :
    Scores (graded id role weight description score) :=
  fun s g => ⟨score s g, score_graded id role weight description (share s g)⟩

theorem isShare_referencedByIdentity (s : Symbol) (g : SymbolGraph) :
    IsShare (referencedByIdentity s g) := by
  unfold referencedByIdentity
  split
  · exact Or.inl rfl
  · split
    · exact Or.inl rfl
    · exact Or.inr (Or.inl rfl)
    · exact Or.inr (Or.inr rfl)

theorem isShare_eventName (s : Symbol) (g : SymbolGraph) : IsShare (eventName s g) := by
  unfold eventName
  split
  · exact Or.inl rfl
  · split
    · exact Or.inr (Or.inr rfl)
    · simp only
      split
      · exact Or.inr (Or.inr rfl)
      · exact Or.inl rfl

theorem isShare_repositoryName (s : Symbol) (g : SymbolGraph) : IsShare (repositoryName s g) := by
  unfold repositoryName
  split
  · exact Or.inl rfl
  · split
    · exact Or.inr (Or.inr rfl)
    · exact Or.inr (Or.inl rfl)

theorem scores_of_mem : ∀ r ∈ rules, Scores r := by
  simp only [rules, List.forall_mem_cons, scores_flag, true_and, List.not_mem_nil, false_implies,
    implies_true, and_true]
  exact ⟨scores_graded _ _ _ _ isShare_referencedByIdentity,
    scores_graded _ _ _ _ isShare_eventName, scores_graded _ _ _ _ isShare_repositoryName⟩

/-! ## The fallbacks -/

def entityFallback : Rule :=
  flag "FB-001" .entity 0.25 "fallback: identity or mutable state" identityOrState

def valueFallback : Rule :=
  flag "FB-002" .valueObject 0.25 "fallback: neither identity nor mutable state" noIdentityNoState

theorem entityFallback_mem : entityFallback ∈ rules := List.mem_of_getElem? (i := 27) rfl

theorem valueFallback_mem : valueFallback ∈ rules := List.mem_of_getElem? (i := 28) rfl

theorem fallback_scores (s : Symbol) (g : SymbolGraph) :
    entityFallback.score s g = .ok 1 ∨ valueFallback.score s g = .ok 1 := by
  rw [entityFallback, valueFallback, score_flag, score_flag, noIdentityNoState]
  cases identityOrState s g
  · exact Or.inr rfl
  · exact Or.inl rfl

end RuleCatalog

/-! ## Ballots and verdicts -/

namespace Rule

variable (s : Symbol) (g : SymbolGraph) (r : Rule)

/-- The score of a symbol, zero where a rule fails. -/
def points : Float :=
  match r.score s g with
  | .ok x => x
  | .error _ => 0

def fires : Bool := 0 < r.points s g

def ballot : Ballot := ⟨r, r.points s g⟩

theorem points_eq {s : Symbol} {g : SymbolGraph} {r : Rule} {x : Float} (h : r.score s g = .ok x) :
    r.points s g = x := by
  rw [points, h]

end Rule

namespace Ballot

theorem cast_eq {rules : List Rule} {s : Symbol} {g : SymbolGraph}
    (scores : ∀ r ∈ rules, ∃ x, r.score s g = .ok x) :
    cast s g rules = .ok ((rules.filter (·.fires s g)).map (·.ballot s g)) := by
  induction rules with
  | nil => rfl
  | cons r rest ih =>
      obtain ⟨x, hx⟩ := scores r List.mem_cons_self
      have points := Rule.points_eq hx
      have later := ih fun q hq => scores q (List.mem_cons_of_mem r hq)
      simp only [cast, hx, later]
      by_cases pos : 0 < x
      · have fires : r.fires s g = true := decide_eq_true (points ▸ pos)
        rw [if_pos pos, List.filter_cons_of_pos fires, List.map_cons, Rule.ballot, points]
      · have idle : ¬r.fires s g = true := fun h => pos (points ▸ of_decide_eq_true h)
        rw [if_neg pos, List.filter_cons_of_neg idle]

theorem cast_ok {rules : List Rule} {s : Symbol} {g : SymbolGraph}
    (scores : ∀ r ∈ rules, ∃ x, r.score s g = .ok x) :
    ∃ ballots, cast s g rules = .ok ballots ∧
      ∀ b, b ∈ ballots ↔ b.rule ∈ rules ∧ b.rule.score s g = .ok b.score ∧ 0 < b.score := by
  refine ⟨_, cast_eq scores, fun b => ?_⟩
  rw [List.mem_map]
  constructor
  · rintro ⟨r, hr, rfl⟩
    obtain ⟨hr, fires⟩ := List.mem_filter.mp hr
    obtain ⟨x, hx⟩ := scores r hr
    exact ⟨hr, hx.trans (congrArg Except.ok (Rule.points_eq hx).symm), of_decide_eq_true fires⟩
  · rintro ⟨hr, scored, pos⟩
    have points := Rule.points_eq scored
    have fires : b.rule.fires s g = true := decide_eq_true (points ▸ pos)
    exact ⟨b.rule, List.mem_filter.mpr ⟨hr, fires⟩, by rw [Rule.ballot, points]⟩

/-- Who casts a ballot is one of the rules and scores above zero, whatever the others do. -/
theorem of_mem_cast {rules : List Rule} {s : Symbol} {g : SymbolGraph} {ballots : List Ballot}
    (h : cast s g rules = .ok ballots) :
    ∀ b ∈ ballots, b.rule ∈ rules ∧ b.rule.score s g = .ok b.score ∧ 0 < b.score := by
  induction rules generalizing ballots with
  | nil =>
      cases h
      simp
  | cons r rest ih =>
      unfold cast at h
      split at h
      · cases h
      rename_i x scored
      split at h
      · cases h
      rename_i later hlater
      cases h
      have behind : ∀ b ∈ later, b.rule ∈ r :: rest ∧ b.rule.score s g = .ok b.score ∧
          0 < b.score := by
        intro b hb
        obtain ⟨listed, score, pos⟩ := ih hlater b hb
        exact ⟨List.mem_cons_of_mem r listed, score, pos⟩
      intro b hb
      by_cases pos : 0 < x
      · rw [if_pos pos] at hb
        rcases List.mem_cons.mp hb with rfl | hb
        · exact ⟨List.mem_cons_self, scored, pos⟩
        · exact behind b hb
      · rw [if_neg pos] at hb
        exact behind b hb

theorem mem_roles {ballots : List Ballot} {role : Role} :
    role ∈ roles ballots ↔ ∃ b ∈ ballots, b.rule.role = role := by
  simp [roles, mem_firstOccurrences]

end Ballot

theorem RoleVote.role_of_mem_rank {V : Type} [Vote V] {ballots : List Ballot} {rv : RoleVote V}
    (h : rv ∈ rank (Ballot.count ballots)) : rv.role ∈ Ballot.roles ballots := by
  obtain ⟨role, hrole, rfl⟩ := List.mem_map.mp (List.mem_mergeSort.mp h)
  exact hrole

/-- Of two votes the greater one comes first, else the one for the first role. -/
theorem RoleVote.rank_pair {V : Type} [Vote V] (a b : RoleVote V) :
    RoleVote.rank [a, b] = if RoleVote.precedes a b then [a, b] else [b, a] := by
  simp [RoleVote.rank, List.mergeSort, List.merge]

theorem Confidence.isKnown_level {V : Type} [Vote V] (config : ScanConfig) (vote : V) :
    (level config vote).isKnown = true := by
  unfold level
  split
  · rfl
  · split <;> rfl

/-- Ballots give a verdict for one of their roles, and its evidence are the ballots for it. -/
theorem Verdict.ofBallots_ok {V : Type} [Vote V] (config : ScanConfig) {ballots : List Ballot}
    (some_ballot : ballots ≠ []) :
    ∃ v : Verdict V, ofBallots config ballots = some v ∧ v.level.isKnown = true ∧
      v.evidence ≠ [] ∧
      ∀ id, id ∈ v.evidence ↔ ∃ b ∈ ballots, b.rule.role = v.role ∧ b.rule.id = id := by
  obtain ⟨b, hb⟩ := List.exists_mem_of_ne_nil ballots some_ballot
  cases hrank : RoleVote.rank (Ballot.count (V := V) ballots) with
  | nil =>
      have hlen := congrArg List.length hrank
      have hrole := Ballot.mem_roles.mpr ⟨b, hb, rfl⟩
      rw [RoleVote.rank, List.length_mergeSort, Ballot.count, List.length_map] at hlen
      rw [List.length_eq_zero_iff.mp hlen] at hrole
      cases hrole
  | cons winner others =>
      have hwinner : winner.role ∈ Ballot.roles ballots :=
        RoleVote.role_of_mem_rank (hrank ▸ List.mem_cons_self)
      have evidence : ∀ id, id ∈ (Ballot.votesFor winner.role ballots).map (·.rule.id) ↔
          ∃ b ∈ ballots, b.rule.role = winner.role ∧ b.rule.id = id := by
        intro id
        simp [Ballot.votesFor, and_assoc]
      refine ⟨_, by simp only [ofBallots, hrank]; rfl, ?_, ?_, evidence⟩
      · simp only
        split
        · rfl
        · exact Confidence.isKnown_level config winner.vote
      · obtain ⟨c, hc, hrole⟩ := Ballot.mem_roles.mp hwinner
        exact List.ne_nil_of_mem ((evidence c.rule.id).mpr ⟨c, hc, hrole, rfl⟩)

theorem Verdict.roles_of_ofBallots {V : Type} [Vote V] {config : ScanConfig}
    {ballots : List Ballot} {v : Verdict V} (h : ofBallots config ballots = some v) :
    v.role ∈ Ballot.roles ballots ∧ v.level.isKnown = true ∧
      ∀ a ∈ v.alternates, a.role ∈ Ballot.roles ballots := by
  have counted : ∀ rv ∈ RoleVote.rank (Ballot.count (V := V) ballots),
      rv.role ∈ Ballot.roles ballots := fun _ => RoleVote.role_of_mem_rank
  simp only [ofBallots] at h
  split at h
  · cases h
  · rename_i winner others ranked
    rw [ranked] at counted
    cases h
    refine ⟨counted winner List.mem_cons_self, ?_, fun a ha => ?_⟩
    · dsimp only
      split
      · rfl
      · exact Confidence.isKnown_level config winner.vote
    · exact counted a (List.mem_cons_of_mem winner (List.mem_of_mem_filter ha))

namespace Classification

/-- A classification of a symbol whose evidence are the rules of its role that scored above zero. -/
structure Supported (registry : RuleRegistry) (graph : SymbolGraph) (s : Symbol)
    (c : Classification) : Prop where
  about : c.symbolId = s.id
  level_known : c.confidence.isKnown = true
  evidence_ne_nil : c.evidence ≠ []
  evidence_iff : ∀ id, id ∈ c.evidence ↔
    ∃ r ∈ registry.rules, r.role = c.role ∧ r.id = id ∧ ∃ x, r.score s graph = .ok x ∧ 0 < x

variable {registry : RuleRegistry}

/-- A registry whose rules score every symbol, one of them above zero. -/
structure Covers (registry : RuleRegistry) : Prop where
  scores : ∀ r ∈ registry.rules, RuleCatalog.Scores r
  positive : ∀ s g, ∃ r ∈ registry.rules, ∃ x, r.score s g = .ok x ∧ 0 < x

theorem ofSymbol_ok (covers : Covers registry) (config : ScanConfig) (graph : SymbolGraph)
    (s : Symbol) :
    ∃ c, ofSymbol registry config graph s = .ok c ∧ Supported registry graph s c := by
  obtain ⟨ballots, hcast, hmem⟩ := Ballot.cast_ok fun r hr => covers.scores r hr s graph
  obtain ⟨r, hr, x, hx, pos⟩ := covers.positive s graph
  have some_ballot : ballots ≠ [] := List.ne_nil_of_mem ((hmem ⟨r, x⟩).mpr ⟨hr, hx, pos⟩)
  obtain ⟨v, hv, level, evidence_ne, evidence⟩ :=
    Verdict.ofBallots_ok (V := Float) config some_ballot
  refine ⟨ofVerdict s.id v, by simp only [ofSymbol, Verdict.of, hcast, hv], rfl, level,
    evidence_ne, ?_⟩
  intro id
  refine (evidence id).trans ?_
  constructor
  · rintro ⟨b, hb, hrole, hid⟩
    obtain ⟨hrule, hscore, hpos⟩ := (hmem b).mp hb
    exact ⟨b.rule, hrule, hrole, hid, b.score, hscore, hpos⟩
  · rintro ⟨q, hq, hrole, hid, y, hy, hpos⟩
    exact ⟨⟨q, y⟩, (hmem _).mpr ⟨hq, hy, hpos⟩, hrole, hid⟩

theorem exists_verdict {config : ScanConfig} {graph : SymbolGraph} {s : Symbol}
    {c : Classification} (h : ofSymbol registry config graph s = .ok c) :
    ∃ (ballots : List Ballot) (v : Verdict Float),
      Ballot.cast s graph registry.rules = .ok ballots ∧
      Verdict.ofBallots config ballots = some v ∧ c = ofVerdict s.id v := by
  unfold ofSymbol at h
  split at h
  · cases h
  rename_i v verdict
  cases h
  unfold Verdict.of at verdict
  split at verdict
  · cases verdict
  rename_i ballots counted
  split at verdict
  · cases verdict
  rename_i v' judged
  cases verdict
  exact ⟨ballots, v, counted, judged, rfl⟩

theorem symbolId_of_ofSymbol {config : ScanConfig} {graph : SymbolGraph} {s : Symbol}
    {c : Classification} (h : ofSymbol registry config graph s = .ok c) : c.symbolId = s.id := by
  obtain ⟨-, v, -, -, rfl⟩ := exists_verdict h
  rfl

/-- Each role of a classification, its own or that of an alternate, has a rule that scores the
symbol above zero. -/
theorem scored_of_ofSymbol {config : ScanConfig} {graph : SymbolGraph} {s : Symbol}
    {c : Classification} (h : ofSymbol registry config graph s = .ok c) :
    ∀ role ∈ c.role :: c.alternates.map (·.role),
      ∃ r ∈ registry.rules, r.role = role ∧ ∃ x, r.score s graph = .ok x ∧ 0 < x := by
  obtain ⟨ballots, v, counted, judged, rfl⟩ := exists_verdict h
  obtain ⟨own, -, others⟩ := Verdict.roles_of_ofBallots judged
  intro role hrole
  have voted : role ∈ Ballot.roles ballots := by
    rcases List.mem_cons.mp hrole with rfl | other
    · exact own
    · obtain ⟨a, ha, rfl⟩ := List.mem_map.mp other
      obtain ⟨rv, hrv, rfl⟩ := List.mem_map.mp ha
      exact others rv hrv
  obtain ⟨b, hb, rfl⟩ := Ballot.mem_roles.mp voted
  obtain ⟨listed, score, pos⟩ := Ballot.of_mem_cast counted b hb
  exact ⟨b.rule, listed, rfl, b.score, score, pos⟩

theorem symbolId_of_explain {c e : Classification} (h : c.explain registry = .ok e) :
    e.symbolId = c.symbolId := by
  unfold explain at h
  split at h
  · cases h
  split at h
  · cases h
  · cases h
    rfl

theorem ofSymbols_eq_mapM (config : ScanConfig) (graph : SymbolGraph) (symbols : List Symbol) :
    ofSymbols registry config graph symbols = symbols.mapM (ofSymbol registry config graph) := by
  induction symbols with
  | nil => rfl
  | cons s rest ih =>
      rw [List.mapM_cons, ← ih, ofSymbols]
      cases ofSymbol registry config graph s with
      | error e => rfl
      | ok c => cases ofSymbols registry config graph rest <;> rfl

theorem explainAll_eq_mapM (cs : List Classification) :
    explainAll registry cs = cs.mapM (explain registry) := by
  induction cs with
  | nil => rfl
  | cons c rest ih =>
      rw [List.mapM_cons, ← ih, explainAll]
      cases c.explain registry with
      | error e => rfl
      | ok e => cases explainAll registry rest <;> rfl

theorem ofSymbols_ok (covers : Covers registry) (config : ScanConfig) (graph : SymbolGraph)
    (symbols : List Symbol) :
    ∃ cs, ofSymbols registry config graph symbols = .ok cs ∧
      List.Forall₂ (Supported registry graph) symbols cs := by
  induction symbols with
  | nil => exact ⟨[], rfl, .nil⟩
  | cons s rest ih =>
      obtain ⟨c, hc, supported⟩ := ofSymbol_ok covers config graph s
      obtain ⟨cs, hcs, all⟩ := ih
      exact ⟨c :: cs, by simp only [ofSymbols, hc, hcs], .cons supported all⟩

end Classification

theorem RuleRegistry.OfCatalog.covers {registry : RuleRegistry} (h : registry.OfCatalog)
    (entity : (registry.get? "FB-001").isSome) (value : (registry.get? "FB-002").isSome) :
    Classification.Covers registry where
  scores := by
    intro r hr s g
    obtain ⟨q, hq, hrq⟩ := h.rules r hr
    rw [hrq.score_eq]
    exact RuleCatalog.scores_of_mem q hq s g
  positive := by
    have stands_for : ∀ p ∈ RuleCatalog.rules, (registry.get? p.id).isSome →
        ∃ r ∈ registry.rules, r.Reweighs p := by
      intro p hp hget
      obtain ⟨r, hr⟩ := Option.isSome_iff_exists.mp hget
      have hmem : r ∈ registry.rules := List.mem_of_find?_eq_some hr
      have hid : r.id = p.id := by simpa using List.find?_some hr
      obtain ⟨q, hq, hrq⟩ := h.rules r hmem
      have same : q = p := List.inj_on_of_nodup_map RuleRegistry.catalog_distinct hq hp
        (hrq.id.symm.trans hid)
      exact ⟨r, hmem, same ▸ hrq⟩
    intro s g
    rcases RuleCatalog.fallback_scores s g with hs | hs
    · obtain ⟨r, hr, hrq⟩ := stands_for _ RuleCatalog.entityFallback_mem entity
      exact ⟨r, hr, 1, (hrq.score_eq s g).trans hs, by decide⟩
    · obtain ⟨r, hr, hrq⟩ := stands_for _ RuleCatalog.valueFallback_mem value
      exact ⟨r, hr, 1, (hrq.score_eq s g).trans hs, by decide⟩

theorem RuleRegistry.fallbacks_standard :
    (standard.get? "FB-001").isSome ∧ (standard.get? "FB-002").isSome :=
  ⟨List.find?_isSome.mpr ⟨_, List.mem_mergeSort.mpr RuleCatalog.entityFallback_mem, by decide⟩,
    List.find?_isSome.mpr ⟨_, List.mem_mergeSort.mpr RuleCatalog.valueFallback_mem, by decide⟩⟩

theorem RuleRegistry.covers_standard : Classification.Covers standard :=
  ofCatalog_standard.covers fallbacks_standard.1 fallbacks_standard.2

end TacticalDesign
