import Mathlib.Tactic.Linarith
import TacticalDesign.Proofs.Classification.Order
import TacticalDesign.Proofs.Classification.Poll
import TacticalDesign.Proofs.Registry.Reweighing
/-!
# What a poll decides

With votes counted exactly, the verdict on a symbol is the one that the votes for the roles say: the
greatest vote wins, a tie is won by the role that comes first, and the alternates are the roles
whose votes come close.
-/

namespace TacticalDesign

/-! ## The verdict -/

/-- What a verdict on a symbol says when votes are counted exactly. -/
structure Verdict.Follows (registry : RuleRegistry) (config : ScanConfig) (g : SymbolGraph)
    (s : Symbol) (v : Verdict ExactVote) : Prop where
  voted : v.role ∈ registry.voted s g
  vote : v.vote = .fraction (registry.tally s g v.role)
  /-- Of the roles with the greatest vote it is the first one. -/
  ahead : ∀ role ∈ registry.voted s g, role ≠ v.role → Role.Ahead (registry.tally s g) v.role role
  support : v.support = .fraction (ExactVote.share (registry.tally s g v.role)
    ((registry.voted s g).map (registry.tally s g)))
  ambiguous_iff : v.ambiguous = true ↔ ∃ role ∈ registry.voted s g, role ≠ v.role ∧
    registry.tally s g role = registry.tally s g v.role
  level : v.level = if v.ambiguous then .low else Confidence.level config v.vote
  mem_alternates : ∀ a, a ∈ v.alternates ↔ a.role ∈ registry.voted s g ∧ a.role ≠ v.role ∧
    a.vote = .fraction (registry.tally s g a.role) ∧
    Vote.le (ExactVote.fraction (registry.tally s g v.role - registry.tally s g a.role))
      (Vote.ofNumber (.float config.ambiguityMargin)) = true
  alternates_ordered :
    v.alternates.Pairwise fun a b => Role.Ahead (registry.tally s g) a.role b.role
  evidence : v.evidence = (registry.fired s g v.role).map (·.id)
  evidence_ascends : v.evidence.Pairwise (· < ·)

namespace Verdict

variable {registry : RuleRegistry} {config : ScanConfig} {s : Symbol} {g : SymbolGraph}

def decided (config : ScanConfig) (tally : Role → ℚ) (votes : List ℚ) (winner : Role)
    (others : List Role) (evidence : List String) : Verdict ExactVote :=
  let vote := ExactVote.fraction (tally winner)
  let tied := others.any fun role => decide (tally role = tally winner)
  { role := winner
    vote
    support := .fraction (ExactVote.share (tally winner) votes)
    ambiguous := tied
    level := if tied then .low else Confidence.level config vote
    alternates :=
      (others.filter fun role => isClose config vote (.fraction (tally role))).map
        (RoleVote.exact tally)
    evidence }

theorem ofBallots_decided (config : ScanConfig) {ballots : List Ballot} {tally : Role → ℚ}
    {roles others : List Role} {winner : Role}
    (counted : Ballot.count ballots = roles.map (RoleVote.exact tally))
    (ranked : RoleVote.rank (roles.map (RoleVote.exact tally)) =
      (winner :: others).map (RoleVote.exact tally)) :
    ofBallots config ballots = some (decided config tally (roles.map tally) winner others
      ((Ballot.votesFor winner ballots).map (·.rule.id))) := by
  have votes : (roles.map (RoleVote.exact tally)).map RoleVote.vote =
      (roles.map tally).map ExactVote.fraction := by
    rw [List.map_map, List.map_map]
    rfl
  unfold ofBallots decided
  simp only [counted, ranked, List.map_cons, votes, List.any_map, List.filter_map]
  simp only [RoleVote.exact, ExactVote.support_fraction]
  rfl

theorem isClose_tally (a b : Role) :
    isClose config (ExactVote.fraction (registry.tally s g a)) (.fraction (registry.tally s g b)) =
      Vote.le (ExactVote.fraction (registry.tally s g a - registry.tally s g b))
        (Vote.ofNumber (.float config.ambiguityMargin)) := by
  rw [isClose, ExactVote.sub_fraction, ExactVote.round_fraction]
  unfold RuleRegistry.tally
  rw [Vote.round_sub_round]

theorem follows_decided (ordered : registry.Ordered) {votes : List ℚ} {winner : Role}
    {others : List Role}
    (total : votes.sum = ((registry.voted s g).map (registry.tally s g)).sum)
    (mem_ranking : ∀ role, role ∈ winner :: others ↔ role ∈ registry.voted s g)
    (distinct : (winner :: others).Nodup)
    (ahead : (winner :: others).Pairwise (Role.Ahead (registry.tally s g))) :
    (decided config (registry.tally s g) votes winner others
      ((Ballot.votesFor winner (Ballot.ofRegistry registry s g)).map (·.rule.id))).Follows
        registry config g s := by
  obtain ⟨first, ordered_others⟩ := List.pairwise_cons.mp ahead
  obtain ⟨apart, -⟩ := List.nodup_cons.mp distinct
  have mem_others : ∀ role, role ∈ others ↔ role ∈ registry.voted s g ∧ role ≠ winner := by
    intro role
    rw [← mem_ranking, List.mem_cons]
    constructor
    · exact fun h => ⟨Or.inr h, fun same => apart (same ▸ h)⟩
    · rintro ⟨same | h, differ⟩
      · exact absurd same differ
      · exact h
  have evidence : (Ballot.votesFor winner (Ballot.ofRegistry registry s g)).map (·.rule.id) =
      (registry.fired s g winner).map (·.id) := by
    rw [Ballot.votesFor_ofRegistry, List.map_map]
    rfl
  constructor
  case voted => exact (mem_ranking winner).mp List.mem_cons_self
  case vote => rfl
  case ahead => exact fun role hrole differ => first role ((mem_others role).mpr ⟨hrole, differ⟩)
  case support =>
    unfold decided ExactVote.share
    simp only [total]
  case ambiguous_iff =>
    unfold decided
    simp only [List.any_eq_true, decide_eq_true_eq, mem_others, and_assoc]
  case level => rfl
  case mem_alternates =>
    rintro ⟨role, vote⟩
    unfold decided
    simp only [List.mem_map, List.mem_filter, mem_others, isClose_tally]
    constructor
    · rintro ⟨role', ⟨⟨hrole, differ⟩, close⟩, same⟩
      cases same
      exact ⟨hrole, differ, rfl, close⟩
    · rintro ⟨hrole, differ, rfl, close⟩
      exact ⟨role, ⟨⟨hrole, differ⟩, close⟩, rfl⟩
  case alternates_ordered => exact List.pairwise_map.mpr (ordered_others.filter _)
  case evidence => exact evidence
  case evidence_ascends =>
    show (_ : List String).Pairwise (· < ·)
    rw [decided, evidence]
    exact List.pairwise_map.mpr ((ordered.ascend winner).filter _)

/-- Where every rule scores and one of them above zero, the verdict follows the votes. -/
theorem follows_of_fires (ordered : registry.Ordered) (config : ScanConfig)
    (scores : ∀ r ∈ registry.rules, ∃ x, r.score s g = .ok x)
    (some_fire : ∃ r ∈ registry.rules, r.fires s g = true) :
    ∃ v, (of registry config g s : Except RuleError (Verdict ExactVote)) = .ok v ∧
      v.Follows registry config g s := by
  have known : ∀ r ∈ registry.rules, r.role.isKnown = true :=
    fun r hr => (ordered.acceptable r hr).role
  have finite : ∀ r ∈ registry.rules, r.weight.isFinite = true :=
    fun r hr => (ordered.acceptable r hr).isFinite
  have voters := Ballot.roles_perm_voted (s := s) (g := g) known
  have distinct : (Ballot.roles (Ballot.ofRegistry registry s g)).Nodup :=
    nodup_firstOccurrences _
  have voters_known : ∀ role ∈ Ballot.roles (Ballot.ofRegistry registry s g),
      role.isKnown = true := fun role hrole =>
    Role.mem_all_iff.mp (List.mem_of_mem_filter (voters.mem_iff.mp hrole))
  obtain ⟨ranking, perm, ahead, ranked⟩ :=
    RoleVote.rank_exact (registry.tally s g) distinct voters_known
  have mem_ranking : ∀ role, role ∈ ranking ↔ role ∈ registry.voted s g :=
    fun role => perm.mem_iff.trans voters.mem_iff
  cases ranking with
  | nil =>
      obtain ⟨r, hr, fires⟩ := some_fire
      have voted := (RuleRegistry.mem_voted known).mpr ⟨r, hr, rfl, fires⟩
      exact absurd ((mem_ranking r.role).mpr voted) List.not_mem_nil
  | cons winner others =>
      have verdict := ofBallots_decided config (Ballot.count_ofRegistry finite) ranked
      have hcast : Ballot.cast s g registry.rules = .ok (Ballot.ofRegistry registry s g) :=
        Ballot.cast_eq scores
      refine ⟨_, ?_, follows_decided ordered (voters.map _).sum_eq mem_ranking
        (perm.nodup_iff.mpr distinct) ahead⟩
      rw [of, hcast]
      simp only [verdict]

end Verdict

/-! ## Finite settings -/

structure ScanConfig.FiniteSettings (config : ScanConfig) : Prop where
  high : config.highThreshold.isFinite = true
  medium : config.mediumThreshold.isFinite = true
  margin : config.ambiguityMargin.isFinite = true

theorem ScanConfig.margin_nonneg {config : ScanConfig} (accepted : config.violation? = none) :
    0 ≤ (Number.float config.ambiguityMargin).exact := by
  simp only [violation?, if_some_eq_none] at accepted
  obtain ⟨-, -, margin, -⟩ := accepted
  exact Number.exact_nonneg_of_not_lt margin

theorem Confidence.level_exact {config : ScanConfig} (finite : config.FiniteSettings) (vote : ℚ) :
    level config (ExactVote.fraction vote) =
      if (Number.float config.highThreshold).exact ≤ vote then .high
      else if (Number.float config.mediumThreshold).exact ≤ vote then .medium
      else .low := by
  rw [level, ExactVote.ofNumber_eq (n := .float config.highThreshold) finite.high,
    ExactVote.ofNumber_eq (n := .float config.mediumThreshold) finite.medium]
  simp only [ExactVote.le_fraction, decide_eq_true_eq]

/-- What a verdict says when the settings are finite too. -/
structure Verdict.FollowsExactly (registry : RuleRegistry) (config : ScanConfig) (g : SymbolGraph)
    (s : Symbol) (v : Verdict ExactVote) : Prop extends v.Follows registry config g s where
  exact_level : v.level =
    if v.ambiguous then .low
    else if (Number.float config.highThreshold).exact ≤ registry.tally s g v.role then .high
    else if (Number.float config.mediumThreshold).exact ≤ registry.tally s g v.role then .medium
    else .low
  alternate_iff : ∀ role, role ∈ v.alternates.map (·.role) ↔
    role ∈ registry.voted s g ∧ role ≠ v.role ∧
      registry.tally s g v.role - registry.tally s g role ≤
        (Number.float config.ambiguityMargin).exact
  tied_alternates : ∀ role ∈ registry.voted s g, role ≠ v.role →
    registry.tally s g role = registry.tally s g v.role → role ∈ v.alternates.map (·.role)

namespace Verdict

variable {registry : RuleRegistry} {config : ScanConfig} {s : Symbol} {g : SymbolGraph}

theorem Follows.exactly {v : Verdict ExactVote} (h : v.Follows registry config g s)
    (accepted : config.violation? = none) (finite : config.FiniteSettings) :
    v.FollowsExactly registry config g s := by
  have alternate_iff : ∀ role, role ∈ v.alternates.map (·.role) ↔
      role ∈ registry.voted s g ∧ role ≠ v.role ∧
        registry.tally s g v.role - registry.tally s g role ≤
          (Number.float config.ambiguityMargin).exact := by
    intro role
    have margin := ExactVote.ofNumber_eq (n := .float config.ambiguityMargin) finite.margin
    simp only [List.mem_map, h.mem_alternates, margin, ExactVote.le_fraction, decide_eq_true_eq]
    constructor
    · rintro ⟨a, ⟨voted, differ, -, close⟩, rfl⟩
      exact ⟨voted, differ, close⟩
    · rintro ⟨voted, differ, close⟩
      exact ⟨RoleVote.exact (registry.tally s g) role, ⟨voted, differ, rfl, close⟩, rfl⟩
  refine ⟨h, ?_, alternate_iff, fun role voted differ tied => ?_⟩
  · rw [h.level, h.vote, Confidence.level_exact finite]
  · refine (alternate_iff role).mpr ⟨voted, differ, ?_⟩
    rw [tied, sub_self]
    exact ScanConfig.margin_nonneg accepted

theorem uncovered_of_idle (config : ScanConfig)
    (idle : ∀ r ∈ registry.rules, ∃ x, r.score s g = .ok x ∧ ¬0 < x) :
    (of registry config g s : Except RuleError (Verdict ExactVote)) = .error (.uncovered s.id) := by
  have scores : ∀ r ∈ registry.rules, ∃ x, r.score s g = .ok x :=
    fun r hr => (idle r hr).imp fun _ h => h.1
  have none_fires : registry.rules.filter (·.fires s g) = [] := by
    refine List.filter_eq_nil_iff.mpr fun r hr fires => ?_
    obtain ⟨x, hx, not_above⟩ := idle r hr
    exact not_above (Rule.points_eq hx ▸ of_decide_eq_true fires)
  rw [of, Ballot.cast_eq scores, none_fires]
  simp only [List.map_nil, ofBallots_nil]

theorem follows_of_ok (ordered : registry.Ordered) {v : Verdict ExactVote}
    (found : of registry config g s = .ok v) :
    (∀ r ∈ registry.rules, ∃ x, r.score s g = .ok x) ∧
      (∃ r ∈ registry.rules, r.fires s g = true) ∧ v.Follows registry config g s := by
  rcases Ballot.scores_or_fails s g registry.rules with scores | ⟨e, -, failed⟩
  · by_cases some_fire : ∃ r ∈ registry.rules, r.fires s g = true
    · obtain ⟨v', found', follows⟩ := follows_of_fires ordered config scores some_fire
      cases found.symm.trans found'
      exact ⟨scores, some_fire, follows⟩
    · have idle : ∀ r ∈ registry.rules, ∃ x, r.score s g = .ok x ∧ ¬0 < x := by
        intro r hr
        obtain ⟨x, hx⟩ := scores r hr
        refine ⟨x, hx, fun pos => some_fire ⟨r, hr, ?_⟩⟩
        exact decide_eq_true (Rule.points_eq hx ▸ pos)
      cases found.symm.trans (uncovered_of_idle config idle)
  · rw [of, failed] at found
    cases found

/-- With votes counted exactly, a symbol has no verdict just when no rule scores it above zero, and
its verdict is the one that the votes say. -/
theorem exact_verdict (accepted : registry.Accepted) (checked : config.violation? = none)
    (finite : config.FiniteSettings)
    (scores : ∀ r ∈ registry.rules, ∃ x, r.score s g = .ok x) :
    (∀ e, (of registry config g s : Except RuleError (Verdict ExactVote)) = .error e ↔
      e = .uncovered s.id ∧ ∀ r ∈ registry.rules, ∃ x, r.score s g = .ok x ∧ ¬0 < x) ∧
    ∀ v, of registry config g s = .ok v → v.FollowsExactly registry config g s := by
  refine ⟨fun e => ⟨fun failed => ?_, ?_⟩, fun v found => ?_⟩
  · cases fails_of_error failed with
    | rule e first =>
        obtain ⟨before, r, after, e, split, -, fails⟩ := first
        obtain ⟨x, hx⟩ := scores r (split ▸ List.mem_append_right _ List.mem_cons_self)
        cases hx.symm.trans fails
    | uncovered idle => exact ⟨rfl, idle⟩
  · rintro ⟨rfl, idle⟩
    exact uncovered_of_idle config idle
  · exact (follows_of_ok accepted.ordered found).2.2.exactly checked finite

/-! ## A tie by rounding -/

def eager (id : String) (role : Role) (weight : Number) : Rule where
  id
  role
  predicate := fun _ _ => .value (.bool true)
  weight
  description := "scores every symbol"

def nearTie : RuleRegistry :=
  ⟨"1", [eager "AR-001" .aggregateRoot (.int 1), eager "EN-001" .entity (.float 1.00001)]⟩

theorem accepted_nearTie : nearTie.Accepted := by
  have all : RuleRegistry.acceptAll [] (nearTie.rules.map Rule.toCandidate) =
      .ok nearTie.rules := by rfl
  have sorted : nearTie.rules.mergeSort RuleRegistry.ruleLe = nearTie.rules :=
    List.mergeSort_of_pairwise (by decide +kernel)
  have accepted : RuleRegistry.ofCandidates (nearTie.rules.map Rule.toCandidate) (.string "1") =
      .ok nearTie := by
    simp only [RuleRegistry.ofCandidates, all, sorted]
    rfl
  exact .made accepted

theorem voted_nearTie : nearTie.voted RuleRegistry.sampleSymbol RuleRegistry.sampleGraph =
    [.aggregateRoot, .entity] := by
  decide +kernel

theorem tally_nearTie :
    nearTie.tally RuleRegistry.sampleSymbol RuleRegistry.sampleGraph .entity =
      nearTie.tally RuleRegistry.sampleSymbol RuleRegistry.sampleGraph .aggregateRoot := by
  decide +kernel

/-- The rule with the greater weight does not win: its vote is rounded to a tie. -/
theorem Follows.role_of_nearTie {v : Verdict ExactVote}
    (h : v.Follows nearTie config RuleRegistry.sampleGraph RuleRegistry.sampleSymbol) :
    v.role = .aggregateRoot := by
  by_contra other
  have ahead := h.ahead .aggregateRoot (by simp [voted_nearTie]) (Ne.symm other)
  have entity : v.role = .entity := by simpa [voted_nearTie, other] using h.voted
  rw [entity] at ahead
  rcases ahead with greater | ⟨-, first⟩
  · exact greater.ne' tally_nearTie
  · exact absurd first (by decide)

/-- The first role wins the tie with little confidence, and the other one is its alternate. -/
theorem nearTie_is_ambiguous :
    ∃ v : Verdict ExactVote,
      of nearTie {} RuleRegistry.sampleGraph RuleRegistry.sampleSymbol = .ok v ∧
      v.role = .aggregateRoot ∧ v.ambiguous = true ∧ v.level = .low ∧
      .entity ∈ v.alternates.map (·.role) := by
  obtain ⟨errors, verdicts⟩ := exact_verdict (s := RuleRegistry.sampleSymbol)
    (g := RuleRegistry.sampleGraph) accepted_nearTie
    (show ({} : ScanConfig).violation? = none by decide)
    ⟨by decide +kernel, by decide +kernel, by decide +kernel⟩ (by simp [nearTie, eager, Rule.score])
  cases found : (of nearTie {} RuleRegistry.sampleGraph RuleRegistry.sampleSymbol :
      Except RuleError (Verdict ExactVote)) with
  | error e =>
      obtain ⟨x, hx, not_above⟩ := ((errors e).mp found).2 _ List.mem_cons_self
      cases hx
      exact absurd (by decide) not_above
  | ok v =>
      have follows := verdicts v found
      have root := follows.role_of_nearTie
      have entity : .entity ∈ nearTie.voted RuleRegistry.sampleSymbol RuleRegistry.sampleGraph := by
        simp [voted_nearTie]
      have tied := root ▸ tally_nearTie
      have ambiguous : v.ambiguous = true :=
        follows.ambiguous_iff.mpr ⟨.entity, entity, by simp [root], tied⟩
      refine ⟨v, rfl, root, ambiguous, by rw [follows.level, ambiguous]; rfl, ?_⟩
      exact follows.tied_alternates .entity entity (by simp [root]) tied

end Verdict

end TacticalDesign
