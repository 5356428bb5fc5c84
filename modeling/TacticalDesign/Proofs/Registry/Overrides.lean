import Mathlib.Data.List.Nodup
import TacticalDesign.Proofs.Registry.Checking
/-!
# Registries made from the built-in rules

Overrides reweigh rules and drop rules. Whatever overrides were accepted one after the other, each
rule of the registry is a rule of the catalog up to its weight, and no id repeats. Whatever the
candidates were, each rule of an accepted registry has the form of a rule.
-/

namespace TacticalDesign

structure Rule.Reweighs (r q : Rule) : Prop where
  id : r.id = q.id
  role : r.role = q.role
  predicate : r.predicate = q.predicate
  description : r.description = q.description

theorem Rule.Reweighs.refl (r : Rule) : r.Reweighs r := ⟨rfl, rfl, rfl, rfl⟩

theorem Rule.Reweighs.trans {r q p : Rule} (h : r.Reweighs q) (k : q.Reweighs p) : r.Reweighs p :=
  ⟨h.id.trans k.id, h.role.trans k.role, h.predicate.trans k.predicate,
    h.description.trans k.description⟩

theorem Rule.Reweighs.score_eq {r q : Rule} (h : r.Reweighs q) (symbol : Symbol)
    (graph : SymbolGraph) : r.score symbol graph = q.score symbol graph := by
  unfold Rule.score
  rw [h.predicate, h.id]

namespace RuleRegistry

variable {registry : RuleRegistry}

def candidateOf (r : Rule) (weight : Json) : RuleCandidate :=
  .parts (.string r.id) (.string r.role.word) weight (.string r.description) (some r.predicate)

/-- A reweighed rule that is accepted keeps everything else, and its id is a new one. -/
theorem reweighs_of_check {r accepted : Rule} {weight : Json} {seen : List String}
    (known : r.role.isKnown = true) (h : (candidateOf r weight).check seen = .ok accepted) :
    accepted.Reweighs r ∧ r.id ∉ seen := by
  obtain ⟨same, fresh, -, known', -, -⟩ := RuleCandidate.check_ok_iff.mp h
  unfold candidateOf Rule.toCandidate at same
  injection same with id role weight description predicate
  have words : some r.role = some accepted.role := by
    rw [← Role.ofWord?_word known, ← Role.ofWord?_word known', Json.string.inj role]
  have ids := Json.string.inj id
  refine ⟨⟨ids.symm, (Option.some.inj words).symm, (Option.some.inj predicate).symm,
    (Json.string.inj description).symm⟩, ids ▸ fresh⟩

theorem acceptAll_reweighs {kept : List Rule} {weight : Rule → Json} {seen : List String}
    {rules : List Rule} (known : ∀ r ∈ kept, r.role.isKnown = true)
    (h : acceptAll seen (kept.map fun r => candidateOf r (weight r)) = .ok rules) :
    (∀ r ∈ rules, ∃ q ∈ kept, r.Reweighs q) ∧ (rules.map (·.id)).Nodup ∧
      ∀ r ∈ rules, r.id ∉ seen := by
  induction kept generalizing seen rules with
  | nil =>
      cases h
      simp
  | cons q kept ih =>
      obtain ⟨accepted, rest, enrolled, hrest, rfl⟩ := acceptAll_cons_ok_iff.mp h
      have checked := (RuleCandidate.enroll_ok_iff.mp enrolled).1
      obtain ⟨reweighs, fresh⟩ := reweighs_of_check (known q List.mem_cons_self) checked
      obtain ⟨from_kept, distinct, unseen⟩ :=
        ih (fun r hr => known r (List.mem_cons_of_mem q hr)) hrest
      refine ⟨?_, ?_, ?_⟩
      · intro r hr
        rcases List.mem_cons.mp hr with rfl | hr
        · exact ⟨q, List.mem_cons_self, reweighs⟩
        · obtain ⟨p, hp, hrp⟩ := from_kept r hr
          exact ⟨p, List.mem_cons_of_mem q hp, hrp⟩
      · rw [List.map_cons, List.nodup_cons]
        refine ⟨?_, distinct⟩
        intro hm
        obtain ⟨r, hr, e⟩ := List.mem_map.mp hm
        exact unseen r hr (e ▸ List.mem_cons_self)
      · intro r hr
        rcases List.mem_cons.mp hr with rfl | hr
        · rw [reweighs.id]
          exact fresh
        · exact fun hs => unseen r hr (List.mem_cons_of_mem _ hs)

/-! ## Customized registries -/

/-- A registry is made of a version that says something and of rules that were accepted. -/
theorem ofCandidates_ok {candidates : List RuleCandidate} {version : Json}
    (h : ofCandidates candidates version = .ok registry) :
    ∃ v rules, version = .string v ∧ v.isEmpty = false ∧ candidates ≠ [] ∧
      acceptAll [] candidates = .ok rules ∧ registry = ⟨v, rules.mergeSort ruleLe⟩ := by
  unfold ofCandidates at h
  split at h
  · split at h
    · cases h
    rename_i some_version
    split at h
    · cases h
    rename_i some_rule
    split at h
    · cases h
    rename_i rules accepted
    cases h
    exact ⟨_, rules, rfl, by simpa using some_version, by simpa using some_rule, accepted, rfl⟩
  · cases h

theorem ofCandidates_of_sorted {candidates : List RuleCandidate} {rules : List Rule} {v : String}
    (some_version : v.isEmpty = false) (some_candidate : candidates ≠ [])
    (all : acceptAll [] candidates = .ok rules)
    (sorted : rules.Pairwise fun a b => ruleLe a b = true) :
    ofCandidates candidates (.string v) = .ok ⟨v, rules⟩ := by
  simp only [ofCandidates, some_version, List.isEmpty_eq_false_iff.mpr some_candidate, all,
    List.mergeSort_of_pairwise sorted, Bool.false_eq_true, if_false]

/-- The standard registry under overrides that were accepted one after the other. -/
inductive Customized : RuleRegistry → Prop where
  | standard : Customized standard
  | override {registry changed : RuleRegistry} {o : Overrides} (before : Customized registry)
      (accepted : registry.withOverrides o = .ok changed) : Customized changed

/-- A registry of catalog rules under any weights, each id once. -/
structure OfCatalog (registry : RuleRegistry) : Prop where
  rules : ∀ r ∈ registry.rules, ∃ q ∈ RuleCatalog.rules, r.Reweighs q
  distinct : (registry.rules.map (·.id)).Nodup

theorem known_of_mem_catalog : ∀ r ∈ RuleCatalog.rules, r.role.isKnown = true := by
  decide

theorem catalog_distinct : (RuleCatalog.rules.map (·.id)).Nodup := by
  decide

theorem ofCatalog_standard : OfCatalog standard where
  rules := by
    intro r hr
    exact ⟨r, List.mem_mergeSort.mp hr, .refl r⟩
  distinct := ((List.mergeSort_perm RuleCatalog.rules ruleLe).map _).nodup_iff.mpr catalog_distinct

def Overrides.kept (o : Overrides) (registry : RuleRegistry) : List Rule :=
  registry.rules.filter fun r => !(r.id ∈ o.disabled)

def Overrides.weightOf (o : Overrides) (r : Rule) : Json :=
  (Json.lookup r.id o.weights).getD (.number r.weight)

theorem withOverrides_of_known {o : Overrides}
    (known : ∀ id ∈ o.weights.map (·.1) ++ o.disabled, (registry.get? id).isSome) :
    registry.withOverrides o =
      ofCandidates ((o.kept registry).map fun r => candidateOf r (o.weightOf r))
        (if o.version.isTruthy then o.version else .string (registry.version ++ "+custom")) := by
  have none_unknown : ((o.weights.map (·.1) ++ o.disabled).filter fun id =>
      (registry.get? id).isNone) = [] := by
    refine List.filter_eq_nil_iff.mpr fun id hid => ?_
    rw [Option.isNone_iff_eq_none]
    exact Option.isSome_iff_ne_none.mp (known id hid)
  unfold RuleRegistry.withOverrides
  simp only [none_unknown, List.isEmpty_nil, Bool.not_true, Bool.false_eq_true, if_false]
  refine congrArg (ofCandidates · _) (List.map_congr_left fun r _ => ?_)
  unfold Overrides.weightOf
  cases Json.lookup r.id o.weights <;> rfl

theorem withOverrides_of_unknown {o : Overrides} {id : String}
    (mentioned : id ∈ o.weights.map (·.1) ++ o.disabled) (unknown : registry.get? id = none) :
    ∃ ids, registry.withOverrides o = .error (.unknownRules ids) := by
  have some_unknown : ((o.weights.map (·.1) ++ o.disabled).filter fun id =>
      (registry.get? id).isNone).isEmpty = false := by
    rw [List.isEmpty_eq_false_iff_exists_mem]
    exact ⟨id, List.mem_filter.mpr ⟨mentioned, Option.isNone_iff_eq_none.mpr unknown⟩⟩
  unfold RuleRegistry.withOverrides
  simp only [some_unknown, Bool.not_false, if_true]
  exact ⟨_, rfl⟩

theorem known_of_withOverrides {o : Overrides} {changed : RuleRegistry}
    (accepted : registry.withOverrides o = .ok changed) :
    ∀ id ∈ o.weights.map (·.1) ++ o.disabled, (registry.get? id).isSome := by
  intro id mentioned
  rw [Option.isSome_iff_ne_none]
  rintro unknown
  obtain ⟨ids, refused⟩ := withOverrides_of_unknown mentioned unknown
  rw [refused] at accepted
  cases accepted

theorem withOverrides_cases (registry : RuleRegistry) (o : Overrides) :
    (∃ ids, registry.withOverrides o = .error (.unknownRules ids)) ∨
      ∃ version, registry.withOverrides o =
        ofCandidates ((o.kept registry).map fun r => candidateOf r (o.weightOf r)) version := by
  by_cases known : ∀ id ∈ o.weights.map (·.1) ++ o.disabled, (registry.get? id).isSome
  · exact Or.inr ⟨_, withOverrides_of_known known⟩
  · push Not at known
    obtain ⟨id, mentioned, unknown⟩ := known
    exact Or.inl (withOverrides_of_unknown mentioned (by simpa using unknown))

theorem OfCatalog.known (h : OfCatalog registry) : ∀ r ∈ registry.rules, r.role.isKnown = true := by
  intro r hr
  obtain ⟨q, hq, hrq⟩ := h.rules r hr
  rw [hrq.role]
  exact known_of_mem_catalog q hq

theorem OfCatalog.withOverrides {changed : RuleRegistry} {o : Overrides} (h : OfCatalog registry)
    (accepted : registry.withOverrides o = .ok changed) : OfCatalog changed := by
  have known : ∀ r ∈ o.kept registry, r.role.isKnown = true :=
    fun r hr => h.known r (List.mem_of_mem_filter hr)
  rcases withOverrides_cases registry o with ⟨ids, unknown⟩ | ⟨version, made⟩
  · rw [unknown] at accepted
    cases accepted
  · rw [made] at accepted
    obtain ⟨v, rules, -, -, -, all, rfl⟩ := ofCandidates_ok accepted
    obtain ⟨from_kept, distinct, -⟩ := acceptAll_reweighs known all
    refine ⟨?_, ((List.mergeSort_perm rules ruleLe).map _).nodup_iff.mpr distinct⟩
    intro r hr
    obtain ⟨k, hk, hrk⟩ := from_kept r (List.mem_mergeSort.mp hr)
    obtain ⟨q, hq, hkq⟩ := h.rules k (List.mem_of_mem_filter hk)
    exact ⟨q, hq, hrk.trans hkq⟩

theorem Customized.ofCatalog (h : Customized registry) : OfCatalog registry := by
  induction h with
  | standard => exact ofCatalog_standard
  | override _ accepted ih => exact ih.withOverrides accepted

end RuleRegistry

/-! ## Accepted registries -/

structure Rule.WellFormed (r : Rule) : Prop where
  id : RuleCandidate.isRuleId r.id = true
  role : r.role.isKnown = true
  weight : r.weight.isFinite = true

namespace RuleCandidate

variable {candidate : RuleCandidate} {seen : List String} {r : Rule}

theorem wellFormed_of_check (h : candidate.check seen = .ok r) : r.WellFormed := by
  obtain ⟨-, -, form, known, weighed, -⟩ := check_ok_iff.mp h
  exact ⟨form, known, (checkWeight_ok weighed).2.1⟩

end RuleCandidate

namespace RuleRegistry

variable {candidates : List RuleCandidate} {version : Json} {registry : RuleRegistry}

theorem check_of_mem {seen : List String} {rules : List Rule}
    (h : acceptAll seen candidates = .ok rules) {r : Rule} (hr : r ∈ rules) :
    ∃ candidate ∈ candidates, ∃ seen', candidate.check seen' = .ok r := by
  induction candidates generalizing seen rules with
  | nil =>
      cases h
      cases hr
  | cons candidate rest ih =>
      obtain ⟨accepted, later, enrolled, hlater, rfl⟩ := acceptAll_cons_ok_iff.mp h
      rcases List.mem_cons.mp hr with rfl | hr
      · exact ⟨candidate, List.mem_cons_self, seen, (RuleCandidate.enroll_ok_iff.mp enrolled).1⟩
      · obtain ⟨other, hother, passed⟩ := ih hlater hr
        exact ⟨other, List.mem_cons_of_mem candidate hother, passed⟩

/-- The registries that there are: the built-in one, and whatever candidates were accepted for. -/
inductive Accepted : RuleRegistry → Prop where
  | standard : Accepted standard
  | made {candidates : List RuleCandidate} {version : Json} {registry : RuleRegistry}
      (accepted : ofCandidates candidates version = .ok registry) : Accepted registry

theorem wellFormed_catalog : ∀ r ∈ RuleCatalog.rules, r.WellFormed := by
  have forms : ∀ r ∈ RuleCatalog.rules, RuleCandidate.isRuleId r.id = true ∧
      r.role.isKnown = true ∧ r.weight.isFinite = true := by
    decide +kernel
  exact fun r hr => ⟨(forms r hr).1, (forms r hr).2.1, (forms r hr).2.2⟩

theorem wellFormed_ofCandidates (h : ofCandidates candidates version = .ok registry) :
    ∀ r ∈ registry.rules, r.WellFormed := by
  obtain ⟨v, rules, -, -, -, accepted, rfl⟩ := ofCandidates_ok h
  intro r hr
  obtain ⟨candidate, -, seen, checked⟩ := check_of_mem accepted (List.mem_mergeSort.mp hr)
  exact RuleCandidate.wellFormed_of_check checked

theorem Accepted.wellFormed (h : Accepted registry) : ∀ r ∈ registry.rules, r.WellFormed := by
  cases h with
  | standard => exact fun r hr => wellFormed_catalog r (List.mem_mergeSort.mp hr)
  | made accepted => exact wellFormed_ofCandidates accepted

theorem Accepted.withOverrides {o : Overrides} {changed : RuleRegistry}
    (h : registry.withOverrides o = .ok changed) : Accepted changed := by
  rcases withOverrides_cases registry o with ⟨ids, unknown⟩ | ⟨version, made⟩
  · rw [unknown] at h
    cases h
  · exact .made (made ▸ h)

end RuleRegistry

end TacticalDesign
