import TacticalDesign.Proofs.Classification.Evidence
import TacticalDesign.Proofs.Classification.ExactVote
/-!
# The votes of a poll

Each rule of a registry that scores a symbol above zero contributes to the vote for its role. The
ballots count up to the exact vote for each role, and the ranking puts each role ahead of those
behind it.
-/

namespace TacticalDesign

/-! ## The order of roles by their votes -/

namespace Role

/-- A role with a greater vote is ahead of another one, and of equal votes the first role. -/
def Ahead (tally : Role → ℚ) (a b : Role) : Prop :=
  tally b < tally a ∨ tally a = tally b ∧ a.rank < b.rank

theorem Ahead.le {tally : Role → ℚ} {a b : Role} (h : Ahead tally a b) : tally b ≤ tally a := by
  rcases h with greater | ⟨same, -⟩
  · exact greater.le
  · exact same.ge

theorem Ahead.asymm {tally : Role → ℚ} {a b : Role} (h : Ahead tally a b) : ¬Ahead tally b a := by
  rcases h with greater | ⟨same, first⟩ <;> rintro (greater' | ⟨same', first'⟩)
  · exact lt_asymm greater greater'
  · exact greater.ne same'
  · exact greater'.ne same
  · exact lt_asymm first first'

theorem rank_inj {a b : Role} (known : a.isKnown = true) (h : a.rank = b.rank) : a = b :=
  (List.idxOf_inj (mem_all_iff.mpr known)).mp h

end Role

namespace RoleVote

def exact (tally : Role → ℚ) (role : Role) : RoleVote ExactVote := ⟨role, .fraction (tally role)⟩

def comesBefore (tally : Role → ℚ) (a b : Role) : Bool := precedes (exact tally a) (exact tally b)

variable {tally : Role → ℚ}

theorem comesBefore_iff {a b : Role} : comesBefore tally a b = true ↔
    tally b < tally a ∨ tally a = tally b ∧ a.rank ≤ b.rank := by
  simp only [comesBefore, precedes, exact, ExactVote.lt_fraction, Bool.or_eq_true,
    Bool.and_eq_true, Bool.not_eq_true', decide_eq_true_eq, decide_eq_false_iff_not, not_lt]
  constructor
  · rintro (greater | ⟨le, first⟩)
    · exact Or.inl greater
    · rcases le.lt_or_eq with greater | same
      · exact Or.inl greater
      · exact Or.inr ⟨same.symm, of_decide_eq_true first⟩
  · rintro (greater | ⟨same, first⟩)
    · exact Or.inl greater
    · exact Or.inr ⟨same.ge, decide_eq_true first⟩

theorem comesBefore_trans (a b c : Role) (hab : comesBefore tally a b = true)
    (hbc : comesBefore tally b c = true) : comesBefore tally a c = true := by
  rw [comesBefore_iff] at hab hbc ⊢
  rcases hab with greater | ⟨same, first⟩ <;> rcases hbc with greater' | ⟨same', first'⟩
  · exact Or.inl (greater'.trans greater)
  · exact Or.inl (same' ▸ greater)
  · exact Or.inl (same ▸ greater')
  · exact Or.inr ⟨same.trans same', first.trans first'⟩

theorem comesBefore_total (a b : Role) :
    (comesBefore tally a b || comesBefore tally b a) = true := by
  rw [Bool.or_eq_true, comesBefore_iff, comesBefore_iff]
  rcases lt_trichotomy (tally a) (tally b) with less | same | greater
  · exact Or.inr (Or.inl less)
  · exact (Nat.le_total a.rank b.rank).imp (fun le => Or.inr ⟨same, le⟩)
      fun le => Or.inr ⟨same.symm, le⟩
  · exact Or.inl (Or.inl greater)

/-- Of two different known roles the one that comes before the other is ahead of it. -/
theorem ahead_of_comesBefore {a b : Role} (known : a.isKnown = true) (differ : a ≠ b)
    (h : comesBefore tally a b = true) : Role.Ahead tally a b := by
  rcases comesBefore_iff.mp h with greater | ⟨same, first⟩
  · exact Or.inl greater
  · exact Or.inr ⟨same, Nat.lt_of_le_of_ne first fun ranks => differ (Role.rank_inj known ranks)⟩

theorem rank_exact (tally : Role → ℚ) {roles : List Role} (distinct : roles.Nodup)
    (known : ∀ role ∈ roles, role.isKnown = true) :
    ∃ ranking : List Role, ranking.Perm roles ∧ ranking.Pairwise (Role.Ahead tally) ∧
      rank (roles.map (exact tally)) = ranking.map (exact tally) := by
  have sorted := List.pairwise_mergeSort (@comesBefore_trans tally) comesBefore_total roles
  have perm := List.mergeSort_perm roles (comesBefore tally)
  have apart : (roles.mergeSort (comesBefore tally)).Pairwise (· ≠ ·) :=
    perm.nodup_iff.mpr distinct
  have mapped : ∀ a ∈ roles, ∀ b ∈ roles,
      comesBefore tally a b = precedes (exact tally a) (exact tally b) := fun _ _ _ _ => rfl
  refine ⟨roles.mergeSort (comesBefore tally), perm, ?_, (List.map_mergeSort mapped).symm⟩
  refine (sorted.and apart).imp_of_mem fun {a b} ha _ pair => ?_
  exact ahead_of_comesBefore (known a (perm.mem_iff.mp ha)) pair.2 pair.1

end RoleVote

/-! ## The votes of a registry -/

namespace Rule

variable (s : Symbol) (g : SymbolGraph) (r : Rule)

def contribution : ℚ := r.weight.exact * (Number.float (r.points s g)).exact

variable {s g r}

theorem isFinite_of_score {x : Float} (h : r.score s g = .ok x) : x.isFinite = true := by
  unfold score at h
  split at h
  · cases h
  · cases h
  · rename_i b _
    cases h
    cases b
    · exact Number.isFinite_zero
    · exact Number.isFinite_one
  · split at h
    · cases h
    split at h
    · cases h
    rename_i finite
    split at h
    · cases h
    · cases h
      simpa using finite
  · cases h

theorem isFinite_points : (r.points s g).isFinite = true := by
  cases h : r.score s g with
  | ok x =>
      rw [points_eq h]
      exact isFinite_of_score h
  | error e =>
      rw [points, h]
      exact Number.isFinite_zero

theorem vote_ballot (finite : r.weight.isFinite = true) :
    (Ballot.vote (r.ballot s g) : ExactVote) = .fraction (r.contribution s g) := by
  have score : (Number.float (r.points s g)).isFinite = true := isFinite_points
  show Vote.mul (Vote.ofNumber r.weight) (Vote.ofNumber (.float (r.points s g))) = _
  rw [ExactVote.ofNumber_eq finite, ExactVote.ofNumber_eq score, ExactVote.mul_fraction]
  rfl

theorem contribution_nonneg (weight : 0 ≤ r.weight.exact) (h : r.fires s g = true) :
    0 ≤ r.contribution s g :=
  mul_nonneg weight (Number.exact_nonneg_of_lt (of_decide_eq_true h))

end Rule

namespace RuleRegistry

variable (registry : RuleRegistry) (s : Symbol) (g : SymbolGraph)

def fired (role : Role) : List Rule := (registry.rulesFor role).filter (·.fires s g)

def tally (role : Role) : ℚ :=
  Vote.round ((registry.fired s g role).map (·.contribution s g)).sum

def voted : List Role := Role.all.filter fun role => !(registry.fired s g role).isEmpty

variable {registry s g}

theorem mem_fired {role : Role} {r : Rule} :
    r ∈ registry.fired s g role ↔ r ∈ registry.rules ∧ r.role = role ∧ r.fires s g = true := by
  rw [fired, rulesFor, List.mem_filter, List.mem_filter, beq_iff_eq, and_assoc]

theorem nodup_voted : (registry.voted s g).Nodup := List.Nodup.filter _ (by decide)

theorem mem_voted (known : ∀ r ∈ registry.rules, r.role.isKnown = true) {role : Role} :
    role ∈ registry.voted s g ↔ ∃ r ∈ registry.rules, r.role = role ∧ r.fires s g = true := by
  have some_fired : (!(registry.fired s g role).isEmpty) = true ↔
      ∃ r ∈ registry.rules, r.role = role ∧ r.fires s g = true := by
    rw [Bool.not_eq_true', List.isEmpty_eq_false_iff_exists_mem]
    exact exists_congr fun r => mem_fired
  rw [voted, List.mem_filter, some_fired, and_iff_right_iff_imp]
  rintro ⟨r, hr, rfl, -⟩
  exact Role.mem_all_iff.mpr (known r hr)

end RuleRegistry

namespace Ballot

variable {registry : RuleRegistry} {s : Symbol} {g : SymbolGraph}

def ofRegistry (registry : RuleRegistry) (s : Symbol) (g : SymbolGraph) : List Ballot :=
  (registry.rules.filter (·.fires s g)).map (·.ballot s g)

theorem votesFor_ofRegistry (role : Role) :
    votesFor role (ofRegistry registry s g) =
      (registry.fired s g role).map (·.ballot s g) := by
  rw [votesFor, ofRegistry, List.filter_map, RuleRegistry.fired, RuleRegistry.rulesFor,
    List.filter_comm]
  rfl

theorem roles_perm_voted (known : ∀ r ∈ registry.rules, r.role.isKnown = true) :
    (roles (ofRegistry registry s g)).Perm (registry.voted s g) := by
  have distinct : (roles (ofRegistry registry s g)).Nodup := nodup_firstOccurrences _
  refine (List.perm_ext_iff_of_nodup distinct RuleRegistry.nodup_voted).mpr fun role => ?_
  rw [RuleRegistry.mem_voted known, mem_roles]
  constructor
  · rintro ⟨b, hb, role⟩
    obtain ⟨r, hr, rfl⟩ := List.mem_map.mp hb
    obtain ⟨hr, fires⟩ := List.mem_filter.mp hr
    exact ⟨r, hr, role, fires⟩
  · rintro ⟨r, hr, role, fires⟩
    exact ⟨_, List.mem_map_of_mem (List.mem_filter.mpr ⟨hr, fires⟩), role⟩

theorem count_ofRegistry (finite : ∀ r ∈ registry.rules, r.weight.isFinite = true) :
    (count (ofRegistry registry s g) : List (RoleVote ExactVote)) =
      (roles (ofRegistry registry s g)).map (RoleVote.exact (registry.tally s g)) := by
  refine List.map_congr_left fun role _ => ?_
  have votes : (votesFor role (ofRegistry registry s g)).map (vote : Ballot → ExactVote) =
      ((registry.fired s g role).map (·.contribution s g)).map .fraction := by
    rw [votesFor_ofRegistry, List.map_map, List.map_map]
    refine List.map_congr_left fun r hr => ?_
    exact Rule.vote_ballot (finite r (RuleRegistry.mem_fired.mp hr).1)
  rw [votes, ExactVote.total_fraction, ExactVote.round_fraction]
  rfl

end Ballot

end TacticalDesign
