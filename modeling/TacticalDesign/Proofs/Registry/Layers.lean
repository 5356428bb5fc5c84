import TacticalDesign.Proofs.Json.RoundTrip
import TacticalDesign.Proofs.Registry.Fingerprint
import TacticalDesign.Proofs.Registry.Reweighing
/-!
# The order of candidates and layers of overrides

Candidates are accepted when each of them is a rule in good order and no id repeats, which does not
depend on the order in which they come; and a registry sorts its rules. Overrides drop candidates
and give others a weight, so two layers of them are one.
-/

namespace TacticalDesign

namespace RuleRegistry

variable {registry middle last : RuleRegistry}

/-! ## Candidates in any order -/

theorem eq_map_of_acceptAll {candidates : List RuleCandidate} {seen : List String}
    {rules : List Rule} (h : acceptAll seen candidates = .ok rules) :
    candidates = rules.map Rule.toCandidate := by
  induction candidates generalizing seen rules with
  | nil =>
      cases h
      rfl
  | cons candidate rest ih =>
      obtain ⟨r, later, enrolled, hlater, rfl⟩ := acceptAll_cons_ok_iff.mp h
      have checked := (RuleCandidate.enroll_ok_iff.mp enrolled).1
      rw [List.map_cons, ← ih hlater, (RuleCandidate.check_ok_iff.mp checked).1]

theorem acceptAll_ok_iff {candidates : List RuleCandidate} {rules : List Rule} :
    acceptAll [] candidates = .ok rules ↔
      candidates = rules.map Rule.toCandidate ∧ (∀ r ∈ rules, r.Acceptable) ∧
        (rules.map (·.id)).Nodup := by
  constructor
  · intro h
    obtain ⟨acceptable, distinct, -⟩ := acceptable_of_acceptAll h
    exact ⟨eq_map_of_acceptAll h, acceptable, distinct⟩
  · rintro ⟨rfl, acceptable, distinct⟩
    exact acceptAll_again acceptable distinct (by simp)

theorem exists_rules_of_perm {candidates : List RuleCandidate} {rules : List Rule}
    (h : candidates.Perm (rules.map Rule.toCandidate)) :
    ∃ rules' : List Rule, candidates = rules'.map Rule.toCandidate ∧ rules'.Perm rules := by
  have pairs : List.Forall₂ (fun c r => c = Rule.toCandidate r) (rules.map Rule.toCandidate)
      rules := List.forall₂_map_left_iff.mpr (List.forall₂_same.mpr fun _ _ => rfl)
  obtain ⟨rules', same, perm⟩ := List.perm_comp_forall₂ h pairs
  refine ⟨rules', ?_, perm⟩
  rwa [← List.forall₂_eq_eq_eq, List.forall₂_map_right_iff]

theorem mergeSort_eq_of_perm {rules rules' : List Rule} (perm : rules.Perm rules')
    (distinct : (rules.map (·.id)).Nodup) :
    rules.mergeSort ruleLe = rules'.mergeSort ruleLe := by
  have sorted (rules : List Rule) := List.pairwise_mergeSort ruleLe_trans ruleLe_total rules
  have same : (rules.mergeSort ruleLe).Perm (rules'.mergeSort ruleLe) :=
    (List.mergeSort_perm rules ruleLe).trans (perm.trans (List.mergeSort_perm rules' ruleLe).symm)
  refine List.Perm.eq_of_pairwise (fun a b ha hb hab hba => ?_) (sorted rules) (sorted rules') same
  have ids : a.id = b.id := by
    unfold ruleLe at hab hba
    split at hab
    · rename_i ranks
      rw [if_pos ranks.symm] at hba
      exact le_antisymm (textLe_iff.mp hab) (textLe_iff.mp hba)
    · rename_i ranks
      rw [if_neg (Ne.symm ranks)] at hba
      simp only [decide_eq_true_eq] at hab hba
      omega
  exact List.inj_on_of_nodup_map distinct (List.mem_mergeSort.mp ha)
    (perm.mem_iff.mpr (List.mem_mergeSort.mp hb)) ids

theorem ofCandidates_of_perm {candidates candidates' : List RuleCandidate}
    (perm : candidates.Perm candidates') {version : Json}
    (accepted : ofCandidates candidates version = .ok registry) :
    ofCandidates candidates' version = .ok registry := by
  obtain ⟨v, rules, rfl, some_version, some_candidate, all, rfl⟩ := ofCandidates_ok accepted
  obtain ⟨rfl, acceptable, distinct⟩ := acceptAll_ok_iff.mp all
  obtain ⟨rules', rfl, same⟩ := exists_rules_of_perm perm.symm
  have all' : acceptAll [] (rules'.map Rule.toCandidate) = .ok rules' :=
    acceptAll_ok_iff.mpr ⟨rfl, fun r hr => acceptable r (same.mem_iff.mp hr),
      (same.map (·.id)).nodup_iff.mpr distinct⟩
  have some_candidate' : (rules'.map Rule.toCandidate).isEmpty = false :=
    List.isEmpty_eq_false_iff.mpr fun none => some_candidate (none ▸ perm).eq_nil
  simp only [ofCandidates, some_version, some_candidate', all', mergeSort_eq_of_perm same.symm
    distinct, Bool.false_eq_true, if_false]

/-! ## Layers of overrides -/

namespace Overrides

/-- The overrides that do at once what one layer does after the other: the later weights are written
over the earlier ones, and what either layer drops is dropped. -/
def andThen (o p : Overrides) : Overrides where
  weights := p.weights.foldr (fun m weights => Json.insertMember m.1 m.2 weights) o.weights
  disabled := o.disabled ++ p.disabled
  version := p.version

theorem lookup_andThen (id : String) (o p : Overrides) :
    Json.lookup id (o.andThen p).weights =
      (Json.lookup id p.weights).or (Json.lookup id o.weights) := by
  show Json.lookup id (p.weights.foldr _ o.weights) = _
  induction p.weights with
  | nil => rfl
  | cons m rest ih =>
      rw [List.foldr_cons, Json.lookup]
      by_cases named : m.1 = id
      · rw [if_pos named, named, Json.lookup_insertMember_self]
        rfl
      · rw [if_neg named, Json.lookup_insertMember_of_ne named, ih]

theorem mentions_andThen {o p : Overrides} {id : String}
    (h : id ∈ (o.andThen p).weights.map (·.1) ++ (o.andThen p).disabled) :
    id ∈ o.weights.map (·.1) ++ o.disabled ∨ id ∈ p.weights.map (·.1) ++ p.disabled := by
  have disabled : (o.andThen p).disabled = o.disabled ++ p.disabled := rfl
  simp only [List.mem_append, ← Json.isSome_lookup_iff, lookup_andThen, Option.isSome_or,
    Bool.or_eq_true, disabled] at h ⊢
  tauto

/-- What overrides make of a candidate: they may drop it, and may give it another weight. -/
def revise (o : Overrides) : RuleCandidate → Option RuleCandidate
  | .parts (.string id) role weight description predicate =>
    if id ∈ o.disabled then none
    else some (.parts (.string id) role ((Json.lookup id o.weights).getD weight) description
      predicate)
  | c => some c

theorem revise_andThen (o p : Overrides) (c : RuleCandidate) :
    (o.andThen p).revise c = (o.revise c).bind p.revise := by
  unfold revise
  split
  · rename_i id role weight description predicate
    rw [lookup_andThen, andThen]
    simp only [List.mem_append]
    by_cases first : id ∈ o.disabled
    · rw [if_pos (Or.inl first), if_pos first]
      rfl
    rw [if_neg first, Option.bind_some]
    by_cases second : id ∈ p.disabled
    · rw [if_pos (Or.inr second)]
      exact (if_pos second).symm
    rw [if_neg (not_or.mpr ⟨first, second⟩)]
    simp only [if_neg second]
    cases Json.lookup id p.weights <;> rfl
  · rename_i other
    rw [Option.bind_some]
    split
    · exact absurd rfl (other _ _ _ _ _)
    · rfl

theorem candidates_eq (o : Overrides) (registry : RuleRegistry) :
    (o.kept registry).map (fun r => candidateOf r (o.weightOf r)) =
      (registry.rules.map Rule.toCandidate).filterMap o.revise := by
  rw [List.filterMap_map, kept]
  induction registry.rules with
  | nil => rfl
  | cons r rest ih =>
      by_cases dropped : r.id ∈ o.disabled
      · have none : (o.revise ∘ Rule.toCandidate) r = none := if_pos dropped
        rw [List.filter_cons_of_neg (by simp [dropped]), List.filterMap_cons_none none, ih]
      · have some : (o.revise ∘ Rule.toCandidate) r = some (candidateOf r (o.weightOf r)) :=
          if_neg dropped
        rw [List.filter_cons_of_pos (by simp [dropped]), List.map_cons,
          List.filterMap_cons_some some, ih]

end Overrides

/-- The rules of a changed registry are the revised candidates, in the order of the registry. -/
theorem perm_of_withOverrides {o : Overrides} (accepted : registry.withOverrides o = .ok middle) :
    ((registry.rules.map Rule.toCandidate).filterMap o.revise).Perm
      (middle.rules.map Rule.toCandidate) := by
  rw [withOverrides_of_known (known_of_withOverrides accepted), o.candidates_eq] at accepted
  obtain ⟨v, rules, -, -, -, all, rfl⟩ := ofCandidates_ok accepted
  rw [eq_map_of_acceptAll all]
  exact ((List.mergeSort_perm rules ruleLe).map _).symm

theorem isSome_of_withOverrides {o : Overrides} (accepted : registry.withOverrides o = .ok middle)
    {id : String} (h : (middle.get? id).isSome) : (registry.get? id).isSome := by
  simp only [RuleRegistry.get?, List.find?_isSome, beq_iff_eq] at h ⊢
  obtain ⟨q, hq, rfl⟩ := h
  have revised := (perm_of_withOverrides accepted).mem_iff.mpr (List.mem_map_of_mem hq)
  obtain ⟨c, hc, made⟩ := List.mem_filterMap.mp revised
  obtain ⟨r, hr, rfl⟩ := List.mem_map.mp hc
  refine ⟨r, hr, ?_⟩
  unfold Overrides.revise Rule.toCandidate at made
  simp only at made
  split at made
  · cases made
  · injection made with same
    injection same with ids
    exact Json.string.inj ids

/-- Two layers of overrides are accepted as one, and the one makes the registry of the two, when the
later layer names its version. -/
theorem withOverrides_andThen {o p : Overrides} (first : registry.withOverrides o = .ok middle)
    (second : middle.withOverrides p = .ok last) (named : p.version.isTruthy = true) :
    registry.withOverrides (o.andThen p) = .ok last := by
  have known_second := known_of_withOverrides second
  have known : ∀ id ∈ (o.andThen p).weights.map (·.1) ++ (o.andThen p).disabled,
      (registry.get? id).isSome := by
    intro id mentioned
    rcases Overrides.mentions_andThen mentioned with early | late
    · exact known_of_withOverrides first id early
    · exact isSome_of_withOverrides first (known_second id late)
  rw [withOverrides_of_known known_second, if_pos named, p.candidates_eq] at second
  rw [withOverrides_of_known known, Overrides.candidates_eq]
  have version : (o.andThen p).version = p.version := rfl
  rw [version, if_pos named]
  refine ofCandidates_of_perm ?_ second
  have both : (registry.rules.map Rule.toCandidate).filterMap (o.andThen p).revise =
      ((registry.rules.map Rule.toCandidate).filterMap o.revise).filterMap p.revise := by
    rw [List.filterMap_filterMap]
    exact congrArg (List.filterMap · _) (funext (Overrides.revise_andThen o p))
  rw [both]
  exact ((perm_of_withOverrides first).filterMap p.revise).symm

/-- The order of candidates does not matter: a registry is made of them in one order when it is made
of them in another one, with the same rules in the same order and thus the same fingerprint. Nor
does it matter whether two layers of overrides come one after the other or at once, when the later
one names its version. -/
theorem order_and_layers :
    (∀ {candidates candidates' : List RuleCandidate}, candidates.Perm candidates' →
      ∀ (version : Json) (registry : RuleRegistry),
        ofCandidates candidates version = .ok registry ↔
          ofCandidates candidates' version = .ok registry) ∧
      ∀ {registry middle last : RuleRegistry} {o p : Overrides},
        registry.withOverrides o = .ok middle → middle.withOverrides p = .ok last →
          p.version.isTruthy = true → registry.withOverrides (o.andThen p) = .ok last :=
  ⟨fun perm _ _ => ⟨ofCandidates_of_perm perm, ofCandidates_of_perm perm.symm⟩,
    withOverrides_andThen⟩

/-! ## Two layers over two rules -/

def heavier : Overrides := { weights := [("AR-001", .int 2), ("AR-002", .int 5)] }

def narrower : Overrides :=
  { weights := [("AR-002", .int 7)], disabled := ["AR-001"], version := .string "w" }

theorem order_and_layers_twoRules :
    ofCandidates [(steadyRule "AR-002").toCandidate, (steadyRule "AR-001").toCandidate]
        (.string "v") = .ok twoRules ∧
      twoRules.withOverrides (heavier.andThen narrower) =
        .ok ⟨"w", [{ steadyRule "AR-002" with weight := .int 7 }]⟩ := by
  have first : twoRules.withOverrides heavier = .ok ⟨"v+custom",
      [{ steadyRule "AR-001" with weight := .int 2 },
        { steadyRule "AR-002" with weight := .int 5 }]⟩ := by
    rw [withOverrides_of_known (by decide +kernel)]
    exact ofCandidates_of_sorted (by decide) nofun rfl (by decide +kernel)
  constructor
  · exact (order_and_layers.1 (.swap _ _ _) _ _).mpr ofCandidates_twoRules
  · refine order_and_layers.2 first ?_ (by decide)
    rw [withOverrides_of_known (by decide +kernel)]
    exact ofCandidates_of_sorted (by decide) nofun rfl (List.pairwise_singleton _ _)

end RuleRegistry

end TacticalDesign
