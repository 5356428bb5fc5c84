import TacticalDesign.Proofs.Classification.Evidence
import TacticalDesign.Proofs.Number.Exact
import TacticalDesign.Proofs.Registry.Overrides
/-!
# Another weight for a rule

The rules of an accepted registry are in order, each id once, and each of them would be accepted
again. So an accepted weight for one of them gives an accepted registry that differs in this weight
and keeps the order of the rules.
-/

namespace TacticalDesign

namespace Rule

def reweighed (id : String) (weight : Number) (r : Rule) : Rule :=
  if r.id = id then { r with weight } else r

theorem reweighs_reweighed (id : String) (weight : Number) (r : Rule) :
    (r.reweighed id weight).Reweighs r := by
  unfold reweighed
  split
  · exact ⟨rfl, rfl, rfl, rfl⟩
  · exact .refl r

/-- A rule that a registry accepts, whatever rules it has accepted before. -/
structure Acceptable (r : Rule) : Prop where
  id : RuleCandidate.isRuleId r.id = true
  role : r.role.isKnown = true
  weight : RuleCandidate.checkWeight r.id (.number r.weight) = .ok r.weight
  description : RuleCandidate.checkDescription r.id (.string r.description) = .ok r.description
  scores : ∃ x, r.score RuleRegistry.sampleSymbol RuleRegistry.sampleGraph = .ok x

theorem Acceptable.check {r : Rule} (h : r.Acceptable) {seen : List String} (fresh : r.id ∉ seen) :
    r.toCandidate.check seen = .ok r :=
  RuleCandidate.check_ok_iff.mpr ⟨rfl, fresh, h.id, h.role, h.weight, h.description⟩

theorem Acceptable.isFinite {r : Rule} (h : r.Acceptable) : r.weight.isFinite = true :=
  (RuleCandidate.checkWeight_ok h.weight).2.1

theorem Acceptable.weight_nonneg {r : Rule} (h : r.Acceptable) : 0 ≤ r.weight.exact :=
  Number.exact_nonneg_of_isPositive (RuleCandidate.checkWeight_ok h.weight).2.2

theorem Acceptable.reweighed {r : Rule} (h : r.Acceptable) {id : String} {weight : Number}
    (accepted : RuleCandidate.checkWeight id (.number weight) = .ok weight) :
    (r.reweighed id weight).Acceptable := by
  unfold Rule.reweighed
  split
  · rename_i named
    refine ⟨h.id, h.role, ?_, h.description, h.scores⟩
    rw [← named] at accepted
    exact accepted
  · exact h

end Rule

namespace RuleCandidate

variable {candidate : RuleCandidate} {seen : List String} {r : Rule}

/-- What the check made of a candidate would be accepted again, under an id that was not seen. -/
theorem acceptable_of_check (h : candidate.check seen = .ok r)
    (scores : ∃ x, r.score RuleRegistry.sampleSymbol RuleRegistry.sampleGraph = .ok x) :
    r.Acceptable ∧ r.id ∉ seen := by
  obtain ⟨-, fresh, form, known, weighed, described⟩ := check_ok_iff.mp h
  exact ⟨⟨form, known, weighed, described, scores⟩, fresh⟩

end RuleCandidate

namespace RuleRegistry

variable {registry : RuleRegistry}

theorem acceptable_of_acceptAll {candidates : List RuleCandidate} {seen : List String}
    {rules : List Rule} (h : acceptAll seen candidates = .ok rules) :
    (∀ r ∈ rules, r.Acceptable) ∧ (rules.map (·.id)).Nodup ∧ ∀ r ∈ rules, r.id ∉ seen := by
  induction candidates generalizing seen rules with
  | nil =>
      cases h
      simp
  | cons candidate rest ih =>
      obtain ⟨accepted, later, enrolled, hlater, rfl⟩ := acceptAll_cons_ok_iff.mp h
      obtain ⟨checked, scores⟩ := RuleCandidate.enroll_ok_iff.mp enrolled
      obtain ⟨acceptable, fresh⟩ := RuleCandidate.acceptable_of_check checked scores
      obtain ⟨all, distinct, unseen⟩ := ih hlater
      have apart : accepted.id ∉ later.map (·.id) := by
        rintro hm
        obtain ⟨r, hr, same⟩ := List.mem_map.mp hm
        exact unseen r hr (same ▸ List.mem_cons_self)
      refine ⟨List.forall_mem_cons.mpr ⟨acceptable, all⟩, List.nodup_cons.mpr ⟨apart, distinct⟩, ?_⟩
      exact List.forall_mem_cons.mpr
        ⟨fresh, fun r hr hs => unseen r hr (List.mem_cons_of_mem _ hs)⟩

theorem acceptAll_again {rules : List Rule} {seen : List String}
    (acceptable : ∀ r ∈ rules, r.Acceptable) (distinct : (rules.map (·.id)).Nodup)
    (unseen : ∀ r ∈ rules, r.id ∉ seen) :
    acceptAll seen (rules.map Rule.toCandidate) = .ok rules := by
  induction rules generalizing seen with
  | nil => rfl
  | cons r rest ih =>
      obtain ⟨apart, distinct⟩ := List.nodup_cons.mp (List.map_cons ▸ distinct)
      have first := acceptable r List.mem_cons_self
      have checked := first.check (unseen r List.mem_cons_self)
      have later : acceptAll (r.id :: seen) (rest.map Rule.toCandidate) = .ok rest := by
        refine ih (fun q hq => acceptable q (List.mem_cons_of_mem r hq)) distinct fun q hq hs => ?_
        rcases List.mem_cons.mp hs with same | hs
        · exact apart (same ▸ List.mem_map_of_mem hq)
        · exact unseen q (List.mem_cons_of_mem r hq) hs
      exact acceptAll_cons_ok_iff.mpr
        ⟨r, rest, RuleCandidate.enroll_ok_iff.mpr ⟨checked, first.scores⟩, later, rfl⟩

/-! ## The order of rules -/

theorem ruleLe_total (a b : Rule) : (ruleLe a b || ruleLe b a) = true := by
  unfold ruleLe
  by_cases same : a.role.rank = b.role.rank
  · rw [if_pos same, if_pos same.symm]
    exact textLe_total a.id b.id
  · rw [if_neg same, if_neg (Ne.symm same), Bool.or_eq_true, decide_eq_true_eq, decide_eq_true_eq]
    omega

theorem ruleLe_trans (a b c : Rule) (hab : ruleLe a b = true) (hbc : ruleLe b c = true) :
    ruleLe a c = true := by
  unfold ruleLe at hab hbc ⊢
  split at hab <;> split at hbc <;> split
  · exact textLe_trans a.id b.id c.id hab hbc
  all_goals simp only [decide_eq_true_eq] at *; omega

structure Ordered (registry : RuleRegistry) : Prop where
  acceptable : ∀ r ∈ registry.rules, r.Acceptable
  distinct : (registry.rules.map (·.id)).Nodup
  sorted : registry.rules.Pairwise fun a b => ruleLe a b = true

theorem ordered_mergeSort {version : String} {rules : List Rule}
    (acceptable : ∀ r ∈ rules, r.Acceptable) (distinct : (rules.map (·.id)).Nodup) :
    Ordered ⟨version, rules.mergeSort ruleLe⟩ where
  acceptable := fun r hr => acceptable r (List.mem_mergeSort.mp hr)
  distinct := ((List.mergeSort_perm rules ruleLe).map _).nodup_iff.mpr distinct
  sorted := List.pairwise_mergeSort ruleLe_trans ruleLe_total rules

theorem weights_catalog : ∀ r ∈ RuleCatalog.rules,
    (r.weight.toFloat?.any fun x => x.isFinite && r.weight.isPositive) = true := by
  decide +kernel

theorem descriptions_catalog :
    ∀ r ∈ RuleCatalog.rules, Text.isBlankText r.description = false := by
  -- One evaluation for each description: the characters of all of them at once are many.
  simp only [RuleCatalog.rules, RuleCatalog.flag, RuleCatalog.graded, List.forall_mem_cons]
  and_intros <;> decide +kernel

theorem acceptable_catalog : ∀ r ∈ RuleCatalog.rules, r.Acceptable := by
  intro r hr
  obtain ⟨id, role, -⟩ := wellFormed_catalog r hr
  have not_blank := descriptions_catalog r hr
  obtain ⟨x, hx, proper⟩ := (Option.any_eq_true _ _).mp (weights_catalog r hr)
  refine ⟨id, role, ?_, ?_, RuleCatalog.scores_of_mem r hr _ _⟩
  · unfold RuleCandidate.checkWeight
    simp only [hx, proper, if_true]
  · have some_text : (Json.string r.description).isTruthy = true := by
      cases empty : r.description.isEmpty with
      | true =>
          rw [String.isEmpty_iff.mp empty] at not_blank
          cases not_blank
      | false => simp only [Json.isTruthy, empty, Bool.not_false]
    unfold RuleCandidate.checkDescription
    simp only [some_text, not_blank, if_true, Bool.false_eq_true, if_false]

theorem Accepted.ordered (h : Accepted registry) : Ordered registry := by
  cases h with
  | standard => exact ordered_mergeSort acceptable_catalog catalog_distinct
  | made accepted =>
      obtain ⟨v, rules, -, -, -, all, rfl⟩ := ofCandidates_ok accepted
      obtain ⟨acceptable, distinct, -⟩ := acceptable_of_acceptAll all
      exact ordered_mergeSort acceptable distinct

theorem Ordered.ascend (h : Ordered registry) (role : Role) :
    (registry.rulesFor role).Pairwise fun a b => a.id < b.id := by
  have apart := List.pairwise_map.mp h.distinct
  have both := (h.sorted.and apart).filter (·.role == role)
  refine both.imp_of_mem fun {a b} ha hb pair => ?_
  have ra : a.role = role := by simpa using (List.mem_filter.mp ha).2
  have rb : b.role = role := by simpa using (List.mem_filter.mp hb).2
  have le := pair.1
  unfold ruleLe at le
  rw [ra, rb, if_pos rfl] at le
  exact lt_of_textLe_of_ne le pair.2

/-! ## Reweighing -/

def reweighed (registry : RuleRegistry) (id : String) (weight : Number) : List Rule :=
  registry.rules.map (·.reweighed id weight)

theorem ids_reweighed (id : String) (weight : Number) :
    (registry.reweighed id weight).map (·.id) = registry.rules.map (·.id) := by
  rw [reweighed, List.map_map]
  exact List.map_congr_left fun q _ => (q.reweighs_reweighed id weight).id

theorem Ordered.reweighed (h : Ordered registry) {id : String} {weight : Number}
    (proper : RuleCandidate.checkWeight id (.number weight) = .ok weight) (version : String) :
    Ordered ⟨version, registry.reweighed id weight⟩ where
  acceptable := by
    intro q hq
    obtain ⟨p, hp, rfl⟩ := List.mem_map.mp hq
    exact (h.acceptable p hp).reweighed proper
  distinct := by
    show ((registry.reweighed id weight).map (·.id)).Nodup
    rw [ids_reweighed]
    exact h.distinct
  sorted := by
    refine List.pairwise_map.mpr (h.sorted.imp fun {a b} le => ?_)
    have ha := a.reweighs_reweighed id weight
    have hb := b.reweighs_reweighed id weight
    unfold ruleLe at le ⊢
    rw [ha.id, ha.role, hb.id, hb.role]
    exact le

theorem candidateOf_weight (id : String) (weight : Number) (version : Json) (q : Rule) :
    candidateOf q (Overrides.weightOf { weights := [(id, .number weight)], version } q) =
      (q.reweighed id weight).toCandidate := by
  unfold Overrides.weightOf Json.lookup Rule.reweighed
  by_cases named : q.id = id
  · rw [if_pos named, if_pos named.symm]
    rfl
  · rw [if_neg named, if_neg (Ne.symm named)]
    rfl

theorem version_of_overrides (registry : RuleRegistry) {version : Json}
    (text : version = .null ∨ ∃ t, version = .string t) :
    ∃ v, v.isEmpty = false ∧
      (if version.isTruthy then version else .string (registry.version ++ "+custom")) =
        .string v := by
  have derived : (registry.version ++ "+custom").isEmpty = false := by
    rw [← Bool.not_eq_true, String.isEmpty_iff, String.append_eq_empty_iff]
    simp
  rcases text with rfl | ⟨t, rfl⟩
  · exact ⟨_, derived, rfl⟩
  · cases empty : t.isEmpty with
    | true => exact ⟨_, derived, by simp [Json.isTruthy, empty]⟩
    | false => exact ⟨t, empty, by simp [Json.isTruthy, empty]⟩

/-- An accepted weight for a rule of an accepted registry changes nothing but this weight. -/
theorem withOverrides_weight (ordered : Ordered registry) {r : Rule} (hr : r ∈ registry.rules)
    {weight : Number}
    (proper : RuleCandidate.checkWeight r.id (.number weight) = .ok weight) {version : Json}
    (text : version = .null ∨ ∃ t, version = .string t) :
    ∃ v, registry.withOverrides { weights := [(r.id, .number weight)], version } =
      .ok ⟨v, registry.reweighed r.id weight⟩ := by
  obtain ⟨v, some_text, hv⟩ := registry.version_of_overrides text
  have changed := ordered.reweighed proper v
  have found : registry.get? r.id = some r :=
    (find?_key_iff Rule.id ordered.distinct).mpr ⟨hr, rfl⟩
  have all : acceptAll [] ((registry.reweighed r.id weight).map Rule.toCandidate) =
      .ok (registry.reweighed r.id weight) :=
    acceptAll_again changed.acceptable changed.distinct (by simp)
  have some_rule : (registry.reweighed r.id weight).map Rule.toCandidate ≠ [] :=
    List.ne_nil_of_mem (List.mem_map_of_mem (List.mem_map_of_mem hr))
  have candidates : (Overrides.kept { weights := [(r.id, .number weight)], version } registry).map
      (fun q => candidateOf q
        (Overrides.weightOf { weights := [(r.id, .number weight)], version } q)) =
      (registry.reweighed r.id weight).map Rule.toCandidate := by
    rw [reweighed, List.map_map, Overrides.kept, List.filter_eq_self.mpr (by simp)]
    exact List.map_congr_left fun q _ => candidateOf_weight r.id weight version q
  refine ⟨v, ?_⟩
  rw [withOverrides_of_known (by simp [found]), candidates, hv]
  exact ofCandidates_of_sorted some_text some_rule all changed.sorted

end RuleRegistry

end TacticalDesign
