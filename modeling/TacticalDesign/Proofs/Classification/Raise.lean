import TacticalDesign.Proofs.Classification.Decision
/-!
# More weight for the winning role

A greater weight for a rule adds to the vote for its role and leaves the other votes as they are. So
a role that has won wins again, with no smaller vote and share, and no other role comes closer.
-/

namespace TacticalDesign

/-! ## Levels and shares -/

def Level.height : Level → Nat
  | high => 2
  | medium => 1
  | _ => 0

theorem Confidence.level_mono (config : ScanConfig) {p q : ℚ} (h : p ≤ q) :
    (level config (ExactVote.fraction p)).height ≤
      (level config (ExactVote.fraction q)).height := by
  unfold level
  by_cases high :
      Vote.le (Vote.ofNumber (.float config.highThreshold)) (ExactVote.fraction p) = true
  · rw [if_pos high, if_pos (ExactVote.le_mono h high)]
  · rw [if_neg high]
    by_cases medium :
        Vote.le (Vote.ofNumber (.float config.mediumThreshold)) (ExactVote.fraction p) = true
    · rw [if_pos medium, if_pos (ExactVote.le_mono h medium)]
      split <;> decide
    · rw [if_neg medium]
      exact Nat.zero_le _

theorem ExactVote.share_mono {vote vote' : ℚ} {votes votes' : List ℚ} {rest : ℚ}
    (grows : vote ≤ vote') (nonneg : 0 ≤ vote) (rest_nonneg : 0 ≤ rest)
    (total : votes.sum = vote + rest) (total' : votes'.sum = vote' + rest) :
    share vote votes ≤ share vote' votes' := by
  unfold share
  rw [total, total']
  by_cases none_given : vote + rest ≤ 0
  · rw [if_pos none_given]
    split
    · exact le_refl 0
    · exact Vote.round_nonneg (div_nonneg (nonneg.trans grows) (by linarith))
  · have some_given : 0 < vote + rest := not_le.mp none_given
    have some_given' : 0 < vote' + rest := by linarith
    rw [if_neg none_given, if_neg (not_le.mpr some_given')]
    refine Vote.round_mono ((div_le_div_iff₀ some_given some_given').mpr ?_)
    calc vote * (vote' + rest) = vote * vote' + vote * rest := by ring
      _ ≤ vote * vote' + vote' * rest := by
          have := mul_le_mul_of_nonneg_right grows rest_nonneg
          linarith
      _ = vote' * (vote + rest) := by ring

/-! ## A registry under a greater weight -/

namespace Rule

variable {s : Symbol} {g : SymbolGraph} {id : String} {weight : Number}

theorem points_reweighed (q : Rule) : (q.reweighed id weight).points s g = q.points s g := by
  rw [points, points, (q.reweighs_reweighed id weight).score_eq]

theorem fires_reweighed (q : Rule) : (q.reweighed id weight).fires s g = q.fires s g := by
  rw [fires, fires, points_reweighed]

theorem contribution_reweighed_of_ne {q : Rule} (other : q.id ≠ id) :
    (q.reweighed id weight).contribution s g = q.contribution s g := by
  rw [reweighed, if_neg other]

theorem contribution_le_reweighed {q : Rule} (fires : q.fires s g = true)
    (grows : q.id = id → q.weight.exact ≤ weight.exact) :
    q.contribution s g ≤ (q.reweighed id weight).contribution s g := by
  by_cases named : q.id = id
  · have score : 0 ≤ (Number.float (q.points s g)).exact :=
      Number.exact_nonneg_of_lt (of_decide_eq_true fires)
    rw [contribution, contribution, points_reweighed]
    refine mul_le_mul_of_nonneg_right ?_ score
    rw [reweighed, if_pos named]
    exact grows named
  · exact (contribution_reweighed_of_ne named).ge

end Rule

namespace RuleRegistry

variable {registry : RuleRegistry} {s : Symbol} {g : SymbolGraph}

theorem fired_reweighed (version id : String) (weight : Number) (role : Role) :
    fired ⟨version, registry.reweighed id weight⟩ s g role =
      (registry.fired s g role).map (·.reweighed id weight) := by
  have same_role : ∀ q : Rule, (q.reweighed id weight).role = q.role :=
    fun q => (q.reweighs_reweighed id weight).role
  simp only [fired, rulesFor, reweighed, List.filter_map, Function.comp_def, same_role,
    Rule.fires_reweighed]

theorem voted_reweighed (version id : String) (weight : Number) :
    voted ⟨version, registry.reweighed id weight⟩ s g = registry.voted s g := by
  refine List.filter_congr fun role _ => ?_
  rw [fired_reweighed, List.isEmpty_map]

theorem tally_nonneg (ordered : registry.Ordered) (role : Role) : 0 ≤ registry.tally s g role := by
  refine Vote.round_nonneg (List.sum_nonneg fun q hq => ?_)
  obtain ⟨r, hr, rfl⟩ := List.mem_map.mp hq
  obtain ⟨inside, -, fires⟩ := mem_fired.mp hr
  exact Rule.contribution_nonneg (ordered.acceptable r inside).weight_nonneg fires

variable {r : Rule} {weight : Number} (ordered : registry.Ordered) (hr : r ∈ registry.rules)
include ordered hr

/-- The vote for the role of a rule does not fall when the rule weighs more. -/
theorem tally_le_reweighed (not_below : r.weight.exact ≤ weight.exact) (version : String)
    (role : Role) : registry.tally s g role ≤
      tally ⟨version, registry.reweighed r.id weight⟩ s g role := by
  unfold tally
  rw [fired_reweighed, List.map_map]
  refine Vote.round_mono (List.sum_le_sum fun q hq => ?_)
  obtain ⟨inside, -, fires⟩ := mem_fired.mp hq
  refine Rule.contribution_le_reweighed fires fun named => ?_
  rw [List.inj_on_of_nodup_map ordered.distinct inside hr named]
  exact not_below

theorem tally_reweighed_of_ne (version : String) {role : Role} (other : role ≠ r.role) :
    tally ⟨version, registry.reweighed r.id weight⟩ s g role = registry.tally s g role := by
  unfold tally
  rw [fired_reweighed, List.map_map]
  refine congrArg _ (congrArg _ (List.map_congr_left fun q hq => ?_))
  obtain ⟨inside, same_role, -⟩ := mem_fired.mp hq
  refine Rule.contribution_reweighed_of_ne fun named => other ?_
  rw [← same_role, List.inj_on_of_nodup_map ordered.distinct inside hr named]

end RuleRegistry

/-! ## The verdict under a greater weight -/

theorem Role.Ahead.raise {tally tally' : Role → ℚ} {a b : Role} (h : Ahead tally a b)
    (grows : tally a ≤ tally' a) (same : tally' b = tally b) : Ahead tally' a b := by
  rcases h with greater | ⟨tied, first⟩
  · exact Or.inl (by rw [same]; exact greater.trans_le grows)
  · rcases grows.lt_or_eq with greater | kept
    · exact Or.inl (by rw [same, ← tied]; exact greater)
    · exact Or.inr ⟨by rw [← kept, same, tied], first⟩

/-- A verdict for the same role that is no weaker in anything. -/
structure Verdict.Strengthens (v v' : Verdict ExactVote) : Prop where
  role : v'.role = v.role
  vote : Vote.le v.vote v'.vote = true
  support : Vote.le v.support v'.support = true
  level : v.level.height ≤ v'.level.height
  ambiguous : v'.ambiguous = true → v.ambiguous = true
  alternates : ∀ a ∈ v'.alternates, ∃ b ∈ v.alternates, b.role = a.role

/-- What one poll says and another in which only the winner has gained. -/
theorem Verdict.Follows.strengthens {registry registry' : RuleRegistry} {config : ScanConfig}
    {g : SymbolGraph} {s : Symbol} {v v' : Verdict ExactVote}
    (h : v.Follows registry config g s) (h' : v'.Follows registry' config g s)
    (nonneg : ∀ role, 0 ≤ registry.tally s g role)
    (voters : registry'.voted s g = registry.voted s g)
    (grows : registry.tally s g v.role ≤ registry'.tally s g v.role)
    (others : ∀ role, role ≠ v.role → registry'.tally s g role = registry.tally s g role) :
    v.Strengthens v' := by
  have role : v'.role = v.role := by
    by_contra differ
    have before := h.ahead v'.role (voters ▸ h'.voted) differ
    have after := h'.ahead v.role (voters ▸ h.voted) (Ne.symm differ)
    exact (before.raise grows (others v'.role differ)).asymm after
  have ambiguous : v'.ambiguous = true → v.ambiguous = true := by
    rw [h.ambiguous_iff, h'.ambiguous_iff, role, voters]
    rintro ⟨other, voted, differ, tied⟩
    refine ⟨other, voted, differ, ?_⟩
    rw [others other differ] at tied
    exact le_antisymm (h.ahead other voted differ).le (tied ▸ grows)
  constructor
  case role => exact role
  case vote =>
    rw [h.vote, h'.vote, role, ExactVote.le_fraction]
    exact decide_eq_true grows
  case support =>
    have split := List.perm_cons_erase h.voted
    have total : ∀ tally : Role → ℚ, ((registry.voted s g).map tally).sum =
        tally v.role + (((registry.voted s g).erase v.role).map tally).sum :=
      fun tally => (split.map tally).sum_eq
    have rest : ((registry.voted s g).erase v.role).map (registry'.tally s g) =
        ((registry.voted s g).erase v.role).map (registry.tally s g) :=
      List.map_congr_left fun other hother =>
        others other ((RuleRegistry.nodup_voted.mem_erase_iff).mp hother).1
    rw [h.support, h'.support, role, voters, ExactVote.le_fraction]
    refine decide_eq_true (ExactVote.share_mono grows (nonneg v.role) ?_ (total _) (rest ▸ total _))
    refine List.sum_nonneg fun q hq => ?_
    obtain ⟨other, -, rfl⟩ := List.mem_map.mp hq
    exact nonneg other
  case level =>
    rw [h.level, h'.level, h.vote, h'.vote, role]
    by_cases tied : v.ambiguous = true
    · rw [if_pos tied]
      exact Nat.zero_le _
    · rw [if_neg tied, if_neg fun tied' => tied (ambiguous tied')]
      exact Confidence.level_mono config grows
  case ambiguous => exact ambiguous
  case alternates =>
    intro a ha
    obtain ⟨voted, differ, -, close⟩ := (h'.mem_alternates a).mp ha
    rw [role] at differ close
    rw [others a.role differ] at close
    have closer : registry.tally s g v.role - registry.tally s g a.role ≤
        registry'.tally s g v.role - registry.tally s g a.role := by linarith
    exact ⟨RoleVote.exact (registry.tally s g) a.role, (h.mem_alternates _).mpr
      ⟨voters ▸ voted, differ, rfl, ExactVote.le_anti closer close⟩, rfl⟩

/-- When a rule for the role of a verdict is given a greater weight, the overrides are accepted and
the verdict is for the same role and no weaker in anything. -/
theorem Verdict.kept_under_greater_weight {registry : RuleRegistry} (accepted : registry.Accepted)
    (config : ScanConfig) (g : SymbolGraph) (s : Symbol) {r : Rule} (hr : r ∈ registry.rules)
    {weight : Number}
    (proper : RuleCandidate.checkWeight r.id (.number weight) = .ok weight)
    (not_below : r.weight.exact ≤ weight.exact) {version : Json}
    (text : version = .null ∨ ∃ t, version = .string t) {v : Verdict ExactVote}
    (found : of registry config g s = .ok v) (votes_for : r.role = v.role) :
    ∃ changed v',
      registry.withOverrides { weights := [(r.id, .number weight)], version } = .ok changed ∧
      changed.rules = registry.reweighed r.id weight ∧
      of changed config g s = .ok v' ∧ v.Strengthens v' := by
  have ordered := accepted.ordered
  obtain ⟨scores, some_fire, follows⟩ := follows_of_ok ordered found
  obtain ⟨version', overridden⟩ := RuleRegistry.withOverrides_weight ordered hr proper text
  have scores' : ∀ q ∈ registry.reweighed r.id weight, ∃ x, q.score s g = .ok x := by
    intro q hq
    obtain ⟨p, hp, rfl⟩ := List.mem_map.mp hq
    rw [(p.reweighs_reweighed r.id weight).score_eq]
    exact scores p hp
  have some_fire' : ∃ q ∈ registry.reweighed r.id weight, q.fires s g = true := by
    obtain ⟨p, hp, fires⟩ := some_fire
    exact ⟨_, List.mem_map_of_mem hp, (Rule.fires_reweighed p).trans fires⟩
  obtain ⟨v', found', follows'⟩ :=
    follows_of_fires (ordered.reweighed proper version') config scores' some_fire'
  refine ⟨_, v', overridden, rfl, found', ?_⟩
  refine follows.strengthens follows' (RuleRegistry.tally_nonneg ordered)
    (RuleRegistry.voted_reweighed version' r.id weight) ?_ fun role other => ?_
  · exact RuleRegistry.tally_le_reweighed ordered hr not_below version' v.role
  · exact RuleRegistry.tally_reweighed_of_ne ordered hr version' (votes_for ▸ other)

/-- Twice the weight ends a tie for the role that has won it. -/
theorem Verdict.tie_kept_under_greater_weight :
    ∃ v changed v', (of nearTie {} RuleRegistry.sampleGraph RuleRegistry.sampleSymbol :
        Except RuleError (Verdict ExactVote)) = .ok v ∧
      nearTie.withOverrides { weights := [("AR-001", .number (.int 2))] } = .ok changed ∧
      of changed {} RuleRegistry.sampleGraph RuleRegistry.sampleSymbol = .ok v' ∧
      v.Strengthens v' := by
  obtain ⟨v, found, follows⟩ := follows_of_fires (s := RuleRegistry.sampleSymbol)
    (g := RuleRegistry.sampleGraph) accepted_nearTie.ordered {}
    (by simp [nearTie, eager, Rule.score]) ⟨_, List.mem_cons_self, by decide +kernel⟩
  obtain ⟨changed, v', overridden, -, found', stronger⟩ :=
    kept_under_greater_weight accepted_nearTie {} RuleRegistry.sampleGraph
      RuleRegistry.sampleSymbol (r := eager "AR-001" .aggregateRoot (.int 1)) List.mem_cons_self
      (show RuleCandidate.checkWeight "AR-001" (.number (.int 2)) = .ok (.int 2) by rfl)
      (by decide +kernel) (Or.inl rfl) found
      follows.role_of_nearTie.symm
  exact ⟨v, changed, v', found, overridden, found', stronger⟩

end TacticalDesign
