import TacticalDesign.Proofs.Except
import TacticalDesign.Registry
/-!
# What the check of a candidate accepts

A candidate is accepted as the rule that it spells out, when each part of it passes its own check
and the id is a new one.
-/

namespace TacticalDesign

theorem Number.isFinite_of_toFloat? {n : Number} {x : Float} (h : n.toFloat? = some x)
    (finite : x.isFinite = true) : n.isFinite = true := by
  cases n with
  | int i => rfl
  | float y =>
      cases h
      exact finite

theorem Role.word_of_ofWord? {w : String} {r : Role} (h : ofWord? w = some r) : r.word = w := by
  simpa using List.find?_some h

namespace RuleCandidate

theorem checkWeight_ok {id : String} {weight : Json} {n : Number}
    (h : checkWeight id weight = .ok n) :
    weight = .number n ∧ n.isFinite = true ∧ n.isPositive = true := by
  unfold checkWeight at h
  split at h
  · split at h
    · cases h
    rename_i x hx
    split at h
    · rename_i proper
      obtain ⟨finite, positive⟩ := Bool.and_eq_true_iff.mp proper
      cases h
      exact ⟨rfl, Number.isFinite_of_toFloat? hx finite, positive⟩
    · cases h
  · cases h

theorem checkDescription_ok {id accepted : String} {description : Json}
    (h : checkDescription id description = .ok accepted) :
    description = .string accepted ∧ Text.isBlankText accepted = false := by
  unfold checkDescription at h
  split at h
  · split at h
    · split at h
      · cases h
      rename_i not_blank
      cases h
      exact ⟨rfl, Bool.not_eq_true _ ▸ not_blank⟩
    · cases h
  · cases h

variable {candidate : RuleCandidate} {seen : List String} {r : Rule}

theorem check_ok_iff : candidate.check seen = .ok r ↔
    candidate = r.toCandidate ∧ r.id ∉ seen ∧ isRuleId r.id = true ∧ r.role.isKnown = true ∧
      checkWeight r.id (.number r.weight) = .ok r.weight ∧
      checkDescription r.id (.string r.description) = .ok r.description := by
  constructor
  · intro h
    unfold check at h
    split at h
    · cases h
    split at h
    · split at h
      · cases h
      rename_i form
      split at h
      · cases h
      rename_i fresh
      split at h
      · cases h
      rename_i found
      split at h
      · cases h
      rename_i weighed
      split at h
      · cases h
      split at h
      · cases h
      rename_i described
      cases h
      split at found
      · obtain ⟨rfl, -⟩ := checkWeight_ok weighed
        obtain ⟨rfl, -⟩ := checkDescription_ok described
        obtain rfl := Role.word_of_ofWord? found
        have known := Role.mem_all_iff.mp (List.mem_of_find?_eq_some found)
        exact ⟨rfl, fresh, by simpa using form, known, weighed, described⟩
      · cases found
    · cases h
  · rintro ⟨rfl, fresh, form, known, weighed, described⟩
    unfold Rule.toCandidate check
    simp only [form, weighed, described, Role.ofWord?_word known, fresh, Bool.not_true,
      Bool.false_eq_true, if_false]

/-- The check of a candidate and the trial of its predicate. -/
def enroll (seen : List String) (candidate : RuleCandidate) : Except RuleError Rule := do
  let r ← candidate.check seen
  let _ ← r.score RuleRegistry.sampleSymbol RuleRegistry.sampleGraph
  return r

theorem enroll_ok_iff : candidate.enroll seen = .ok r ↔
    candidate.check seen = .ok r ∧
      ∃ x, r.score RuleRegistry.sampleSymbol RuleRegistry.sampleGraph = .ok x := by
  unfold enroll
  rw [bind_eq_ok]
  constructor
  · rintro ⟨q, checked, h⟩
    obtain ⟨x, scored, h⟩ := bind_eq_ok.mp h
    cases h
    exact ⟨checked, x, scored⟩
  · rintro ⟨checked, x, scored⟩
    exact ⟨r, checked, bind_eq_ok.mpr ⟨x, scored, rfl⟩⟩

theorem enroll_error_iff {e : RuleError} : candidate.enroll seen = .error e ↔
    candidate.check seen = .error e ∨ ∃ r, candidate.check seen = .ok r ∧
      r.score RuleRegistry.sampleSymbol RuleRegistry.sampleGraph = .error e := by
  unfold enroll
  rw [bind_eq_error]
  refine or_congr_right (exists_congr fun r => and_congr_right fun _ => ?_)
  rw [bind_eq_error]
  constructor
  · rintro (failed | ⟨x, -, h⟩)
    · exact failed
    · cases h
  · exact Or.inl

end RuleCandidate

namespace RuleRegistry

theorem acceptAll_cons (seen : List String) (candidate : RuleCandidate)
    (rest : List RuleCandidate) :
    acceptAll seen (candidate :: rest) = (do
      let r ← candidate.enroll seen
      let rules ← acceptAll (r.id :: seen) rest
      return r :: rules) := by
  rw [acceptAll, RuleCandidate.enroll]
  cases candidate.check seen with
  | error e => rfl
  | ok r =>
      cases scored : r.score sampleSymbol sampleGraph with
      | error e =>
          simp only [bind, Except.bind, scored]
      | ok x =>
          simp only [bind, Except.bind, scored, pure, Except.pure]
          cases acceptAll (r.id :: seen) rest <;> rfl

theorem acceptAll_cons_ok_iff {seen : List String} {candidate : RuleCandidate}
    {rest : List RuleCandidate} {rules : List Rule} :
    acceptAll seen (candidate :: rest) = .ok rules ↔
      ∃ r later, candidate.enroll seen = .ok r ∧ acceptAll (r.id :: seen) rest = .ok later ∧
        rules = r :: later := by
  rw [acceptAll_cons, bind_eq_ok]
  constructor
  · rintro ⟨r, enrolled, h⟩
    obtain ⟨later, all, h⟩ := bind_eq_ok.mp h
    cases h
    exact ⟨r, later, enrolled, all, rfl⟩
  · rintro ⟨r, later, enrolled, all, rfl⟩
    exact ⟨r, enrolled, bind_eq_ok.mpr ⟨later, all, rfl⟩⟩

theorem acceptAll_cons_error_iff {seen : List String} {candidate : RuleCandidate}
    {rest : List RuleCandidate} {e : RuleError} :
    acceptAll seen (candidate :: rest) = .error e ↔
      candidate.enroll seen = .error e ∨
        ∃ r, candidate.enroll seen = .ok r ∧ acceptAll (r.id :: seen) rest = .error e := by
  rw [acceptAll_cons, bind_eq_error]
  refine or_congr_right (exists_congr fun r => and_congr_right fun _ => ?_)
  rw [bind_eq_error]
  constructor
  · rintro (failed | ⟨later, -, h⟩)
    · exact failed
    · cases h
  · exact Or.inl

end RuleRegistry

end TacticalDesign
