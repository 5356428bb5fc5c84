import TacticalDesign.Proofs.Number.FloatOrder
import TacticalDesign.Proofs.Number.Whole
import TacticalDesign.Proofs.Registry.Layers
/-!
# Malformed rules

Candidates are refused for the first of them that is no rule in good order, with an error that says
what is wrong with it. The checks do not allow for every value, though: a whole number beyond the
largest float cannot be tested for being finite, what is no text has no blanks to be trimmed, and a
value in a message may be beyond what can be written. And some failures of a predicate are let
through.
-/

namespace TacticalDesign

/-- Whether a failure comes in place of an error. -/
def RuleError.Unforeseen (room : Nat) (e : RuleError) : Prop := (e.failure? room).isSome = true

def Json.Unwritable (room : Nat) (v : Json) : Prop := (v.writingFailure? room).isSome = true

namespace Number

/-- A finite number from zero to one is converted to a float from zero to one. -/
theorem unit_bounds {n : Number} {x : Float} (converted : n.toFloat? = some x)
    (finite : x.isFinite = true) (low : n.isNegative = false) (high : n.exceedsOne = false) :
    0 ≤ x ∧ x ≤ 1 := by
  cases n with
  | int i =>
      have nonneg : ¬i < 0 := of_decide_eq_false low
      have at_most : ¬1 < i := of_decide_eq_false high
      obtain rfl | rfl : i = 0 ∨ i = 1 := by omega
      all_goals
        cases converted
        decide +kernel
  | float y =>
      cases converted
      exact ⟨floatLe_of_not_lt finite isFinite_zero (of_decide_eq_false low),
        floatLe_of_not_lt isFinite_one finite (of_decide_eq_false high)⟩

theorem int_of_toFloat? {n : Number} (h : n.toFloat? = none) : ∃ i, n = .int i := by
  cases n with
  | int i => exact ⟨i, rfl⟩
  | float x => cases h

theorem not_unwritable {n : Number} {x : Float} (converted : n.toFloat? = some x) (room : Nat) :
    ¬(Json.number n).Unwritable room := by
  cases n with
  | int i =>
      have small : ¬wholeLimit ≤ i.natAbs := by simp [← toFloat?_int_eq_none_iff, converted]
      have limit : wholeLimit ≤ tenTo digitLimit := by decide +kernel
      have few : ¬tenTo digitLimit ≤ i.natAbs := fun h => small (limit.trans h)
      rw [Json.Unwritable, Json.writingFailure?, if_neg few]
      exact Bool.false_ne_true
  | float y => exact Bool.false_ne_true

end Number

namespace Rule

structure Proper (r : Rule) : Prop where
  id : RuleCandidate.isRuleId r.id = true
  role : r.role.isKnown = true
  finite : r.weight.isFinite = true
  positive : r.weight.isPositive = true
  description : Text.isBlankText r.description = false

theorem Acceptable.proper {r : Rule} (h : r.Acceptable) : r.Proper where
  id := h.id
  role := h.role
  finite := h.isFinite
  positive := (RuleCandidate.checkWeight_ok h.weight).2.2
  description := (RuleCandidate.checkDescription_ok h.description).2

end Rule

/-- What makes the score of a rule fail in its own way: a predicate that answers a whole number
beyond the largest float, or that answers no number but a value that cannot be written, or whose
failure is let through. -/
inductive PredicateOutcome.Breaks (room : Nat) (id : String) : PredicateOutcome → RuleError → Prop
    where
  | tooLarge {i : Int} (large : (Number.int i).toFloat? = none) :
      Breaks room id (.value (.number (.int i))) .tooLarge
  | unwritable {v : Json} (no_number : ∀ n, v ≠ .number n) (unwritable : v.Unwritable room) :
      Breaks room id (.value v) (.nonNumericScore id v)
  | escaped (f : Failure) : Breaks room id (.escaped f) (.escaped f)

namespace Rule

variable {room : Nat} {r : Rule} {symbol : Symbol} {graph : SymbolGraph} {e : RuleError}

/-! ## Scores -/

theorem score_bounds {x : Float} (h : r.score symbol graph = .ok x) : 0 ≤ x ∧ x ≤ 1 := by
  unfold score at h
  split at h
  · cases h
  · cases h
  · rename_i b _
    cases h
    cases b <;> decide +kernel
  · split at h
    · cases h
    rename_i n _ _ converted
    split at h
    · cases h
    rename_i finite
    split at h
    · cases h
    rename_i inside
    cases h
    obtain ⟨low, high⟩ := Bool.or_eq_false_iff.mp (Bool.not_eq_true _ ▸ inside)
    exact Number.unit_bounds converted (by simpa using finite) low high
  · cases h

/-- An error of a score is about the rule, unless a failure comes in its place. -/
theorem ruleId_of_score (h : r.score symbol graph = .error e) (told : ¬e.Unforeseen room) :
    e.ruleId? = some r.id := by
  unfold score at h
  split at h
  · cases h
    rfl
  · cases h
    exact absurd rfl told
  · cases h
  · split at h
    · cases h
      exact absurd rfl told
    split at h
    · cases h
      rfl
    split at h <;> cases h
    rfl
  · cases h
    rfl

theorem score_unforeseen_iff : r.score symbol graph = .error e ∧ e.Unforeseen room ↔
    (r.predicate symbol graph).Breaks room r.id e := by
  constructor
  · rintro ⟨h, unforeseen⟩
    unfold score at h
    split at h
    · cases h
      exact absurd unforeseen Bool.false_ne_true
    · rename_i f answered
      cases h
      rw [answered]
      exact .escaped f
    · cases h
    · rename_i n answered
      rw [answered]
      split at h
      · rename_i large
        obtain ⟨i, rfl⟩ := Number.int_of_toFloat? large
        cases h
        exact .tooLarge large
      rename_i x converted
      split at h
      · cases h
        exact absurd unforeseen (Number.not_unwritable converted room)
      split at h <;> cases h
      exact absurd unforeseen Bool.false_ne_true
    · rename_i v _ no_number answered
      cases h
      rw [answered]
      exact .unwritable no_number unforeseen
  · intro breaks
    generalize answered : r.predicate symbol graph = outcome at breaks
    cases breaks with
    | tooLarge large => exact ⟨by simp only [score, answered, large], rfl⟩
    | @unwritable v no_number unwritable =>
        have no_flag : ∀ b, v ≠ .bool b := by
          rintro b rfl
          exact Bool.false_ne_true unwritable
        refine ⟨?_, unwritable⟩
        unfold score
        rw [answered]
        split
        · rename_i same
          cases same
        · rename_i same
          cases same
        · rename_i same
          cases same
          exact absurd rfl (no_flag _)
        · rename_i same
          cases same
          exact absurd rfl (no_number _)
        · rename_i same
          cases same
          rfl
    | escaped f => exact ⟨by simp only [score, answered], rfl⟩

end Rule

namespace RuleCandidate

/-! ## Candidates that a check cannot handle -/

/-- A candidate at which a failure comes in place of an error, with nothing else wrong with it
before: no rule at all, an id, a role or a weight that cannot be written, a weight that is a whole
number beyond the largest float, a description that is neither a text nor nothing, or a predicate
that breaks the score. -/
inductive Trips (room : Nat) (seen : List String) : RuleCandidate → RuleError → Prop where
  | bare {v : Json} (unwritable : v.Unwritable room) : Trips room seen (.bare v) (.notARule v)
  | id {id role weight description : Json} {predicate : Option Predicate}
      (unwritable : id.Unwritable room) :
      Trips room seen (.parts id role weight description predicate) (.invalidId id)
  | role {id : String} {role weight description : Json} {predicate : Option Predicate}
      (fresh : id ∉ seen) (form : isRuleId id = true) (unwritable : role.Unwritable room) :
      Trips room seen (.parts (.string id) role weight description predicate) (.unknownRole id role)
  | tooLarge {id : String} {role : Role} {i : Int} {description : Json}
      {predicate : Option Predicate} (fresh : id ∉ seen) (form : isRuleId id = true)
      (known : role.isKnown = true) (large : (Number.int i).toFloat? = none) :
      Trips room seen
        (.parts (.string id) (.string role.word) (.number (.int i)) description predicate) .tooLarge
  | weight {id : String} {role : Role} {weight description : Json} {predicate : Option Predicate}
      (fresh : id ∉ seen) (form : isRuleId id = true) (known : role.isKnown = true)
      (no_number : ∀ n, weight ≠ .number n) (unwritable : weight.Unwritable room) :
      Trips room seen (.parts (.string id) (.string role.word) weight description predicate)
        (.invalidWeight id weight)
  | description {id : String} {role : Role} {n : Number} {description : Json}
      {predicate : Predicate} (fresh : id ∉ seen) (form : isRuleId id = true)
      (known : role.isKnown = true) (weighed : checkWeight id (.number n) = .ok n)
      (truthy : description.isTruthy = true) (no_text : ∀ s, description ≠ .string s) :
      Trips room seen
        (.parts (.string id) (.string role.word) (.number n) description (some predicate))
        (.descriptionNotText description)
  | score {r : Rule} {e : RuleError} (accepted : r.toCandidate.check seen = .ok r)
      (breaks : (r.predicate RuleRegistry.sampleSymbol RuleRegistry.sampleGraph).Breaks
        room r.id e) :
      Trips room seen r.toCandidate e

variable {room : Nat} {c : RuleCandidate} {seen seen' : List String} {e : RuleError}

theorem Trips.congr (h : c.Trips room seen e) (same : ∀ id, id ∈ seen' ↔ id ∈ seen) :
    c.Trips room seen' e := by
  cases h with
  | bare unwritable => exact .bare unwritable
  | id unwritable => exact .id unwritable
  | role fresh form unwritable => exact .role (mt (same _).mp fresh) form unwritable
  | tooLarge fresh form known large => exact .tooLarge (mt (same _).mp fresh) form known large
  | weight fresh form known no_number unwritable =>
      exact .weight (mt (same _).mp fresh) form known no_number unwritable
  | description fresh form known weighed truthy no_text =>
      exact .description (mt (same _).mp fresh) form known weighed truthy no_text
  | score accepted breaks =>
      obtain ⟨-, fresh, passed⟩ := check_ok_iff.mp accepted
      exact .score (check_ok_iff.mpr ⟨rfl, mt (same _).mp fresh, passed⟩) breaks

theorem checkWeight_unforeseen {id : String} {weight : Json} (h : checkWeight id weight = .error e)
    (unforeseen : e.Unforeseen room) :
    (e = .tooLarge ∧ ∃ i, weight = .number (.int i) ∧ (Number.int i).toFloat? = none) ∨
      e = .invalidWeight id weight ∧ (∀ n, weight ≠ .number n) ∧ weight.Unwritable room := by
  unfold checkWeight at h
  split at h
  · split at h
    · rename_i large
      obtain ⟨i, rfl⟩ := Number.int_of_toFloat? large
      cases h
      exact Or.inl ⟨rfl, i, rfl, large⟩
    · rename_i converted
      split at h <;> cases h
      exact absurd unforeseen (Number.not_unwritable converted room)
  · rename_i no_number
    cases h
    exact Or.inr ⟨rfl, no_number, unforeseen⟩

theorem checkDescription_unforeseen {id : String} {description : Json}
    (h : checkDescription id description = .error e) (unforeseen : e.Unforeseen room) :
    e = .descriptionNotText description ∧ description.isTruthy = true ∧
      ∀ s, description ≠ .string s := by
  unfold checkDescription at h
  split at h
  · rename_i truthy
    split at h
    · split at h <;> cases h
      exact absurd unforeseen Bool.false_ne_true
    · rename_i no_text
      cases h
      exact ⟨rfl, truthy, no_text⟩
  · cases h
    exact absurd unforeseen Bool.false_ne_true

theorem trips_of_check (h : c.check seen = .error e) (unforeseen : e.Unforeseen room) :
    c.Trips room seen e := by
  unfold check at h
  split at h
  · cases h
    exact .bare unforeseen
  split at h
  · split at h
    · cases h
      exact absurd unforeseen Bool.false_ne_true
    rename_i id form
    have form : isRuleId id = true := by simpa using form
    split at h
    · cases h
      exact absurd unforeseen Bool.false_ne_true
    rename_i fresh
    split at h
    · cases h
      exact .role fresh form unforeseen
    rename_i found
    split at found
    · obtain rfl := Role.word_of_ofWord? found
      have known := Role.mem_all_iff.mp (List.mem_of_find?_eq_some found)
      split at h
      · rename_i refused
        cases h
        obtain ⟨rfl, i, rfl, large⟩ | ⟨rfl, no_number, unwritable⟩ :=
          checkWeight_unforeseen refused unforeseen
        · exact .tooLarge fresh form known large
        · exact .weight fresh form known no_number unwritable
      rename_i weighed
      obtain ⟨rfl, -⟩ := checkWeight_ok weighed
      split at h
      · cases h
        exact absurd unforeseen Bool.false_ne_true
      split at h
      · rename_i refused
        cases h
        obtain ⟨rfl, truthy, no_text⟩ := checkDescription_unforeseen refused unforeseen
        exact .description fresh form known weighed truthy no_text
      · cases h
    · cases found
  · cases h
    exact .id unforeseen

theorem ne_string_of_unwritable {v : Json} (unwritable : v.Unwritable room) (s : String) :
    v ≠ .string s := by
  rintro rfl
  exact Bool.false_ne_true unwritable

theorem Trips.refused (h : c.Trips room seen e) : c.enroll seen = .error e ∧ e.Unforeseen room := by
  rw [enroll_error_iff]
  cases h with
  | bare unwritable => exact ⟨Or.inl rfl, unwritable⟩
  | id unwritable =>
      refine ⟨Or.inl ?_, unwritable⟩
      simp only [check]
      split
      · exact absurd rfl (ne_string_of_unwritable unwritable _)
      · rfl
  | role fresh form unwritable =>
      refine ⟨Or.inl ?_, unwritable⟩
      simp only [check, form, fresh, Bool.not_true, Bool.false_eq_true, if_false]
      split
      · rfl
      · rename_i found
        split at found
        · exact absurd rfl (ne_string_of_unwritable unwritable _)
        · cases found
  | tooLarge fresh form known large =>
      refine ⟨Or.inl ?_, rfl⟩
      simp only [check, form, fresh, Role.ofWord?_word known, checkWeight, large, Bool.not_true,
        Bool.false_eq_true, if_false]
  | @weight id _ weight _ _ fresh form known no_number unwritable =>
      refine ⟨Or.inl ?_, unwritable⟩
      have refused : checkWeight id weight = .error (.invalidWeight id weight) := by
        unfold checkWeight
        split
        · exact absurd rfl (no_number _)
        · rfl
      simp only [check, form, fresh, Role.ofWord?_word known, refused, Bool.not_true,
        Bool.false_eq_true, if_false]
  | description fresh form known weighed truthy no_text =>
      refine ⟨Or.inl ?_, rfl⟩
      simp only [check, form, fresh, Role.ofWord?_word known, weighed, checkDescription, truthy,
        Bool.not_true, Bool.false_eq_true, if_false, if_true]
  | score accepted breaks =>
      obtain ⟨scored, unforeseen⟩ := Rule.score_unforeseen_iff.mpr breaks
      exact ⟨Or.inr ⟨_, accepted, scored⟩, unforeseen⟩

theorem trips_iff : c.Trips room seen e ↔ c.enroll seen = .error e ∧ e.Unforeseen room := by
  refine ⟨Trips.refused, ?_⟩
  rintro ⟨refused, unforeseen⟩
  rcases enroll_error_iff.mp refused with checked | ⟨r, checked, scored⟩
  · exact trips_of_check checked unforeseen
  · obtain ⟨rfl, -⟩ := check_ok_iff.mp checked
    exact .score checked (Rule.score_unforeseen_iff.mp ⟨scored, unforeseen⟩)

end RuleCandidate

namespace RuleRegistry

/-! ## Lists of candidates -/

/-- Candidates are refused for the first of them that is not accepted after those before it. -/
theorem acceptAll_error_iff {candidates : List RuleCandidate} {seen : List String}
    {e : RuleError} :
    acceptAll seen candidates = .error e ↔
      ∃ (before : List Rule) (c : RuleCandidate) (after : List RuleCandidate),
        candidates = before.map Rule.toCandidate ++ c :: after ∧
        acceptAll seen (before.map Rule.toCandidate) = .ok before ∧
        c.enroll ((before.map (·.id)).reverse ++ seen) = .error e := by
  induction candidates generalizing seen with
  | nil => simp [acceptAll]
  | cons candidate rest ih =>
      rw [acceptAll_cons_error_iff]
      constructor
      · rintro (failed | ⟨r, enrolled, failed⟩)
        · exact ⟨[], candidate, rest, rfl, rfl, failed⟩
        · obtain ⟨before, c, after, rfl, all, failed⟩ := ih.mp failed
          have checked := (RuleCandidate.enroll_ok_iff.mp enrolled).1
          obtain ⟨rfl, -⟩ := RuleCandidate.check_ok_iff.mp checked
          refine ⟨r :: before, c, after, rfl, ?_, by simpa using failed⟩
          exact acceptAll_cons_ok_iff.mpr ⟨r, before, enrolled, all, rfl⟩
      · rintro ⟨before, c, after, split, all, failed⟩
        cases before with
        | nil =>
            obtain ⟨rfl, -⟩ := List.cons.inj split
            exact Or.inl failed
        | cons r before =>
            obtain ⟨rfl, behind⟩ := List.cons.inj split
            obtain ⟨q, later, enrolled, all, same⟩ := acceptAll_cons_ok_iff.mp all
            obtain ⟨rfl, rfl⟩ := List.cons.inj same
            have later := ih.mpr ⟨before, c, after, behind, all, by simpa using failed⟩
            exact Or.inr ⟨r, enrolled, later⟩

/-- Where a failure comes in place of an error, it does so at the first candidate that is no
acceptable rule with an id of its own. -/
theorem acceptAll_unforeseen_iff {room : Nat} {candidates : List RuleCandidate} {e : RuleError}
    (unforeseen : e.Unforeseen room) :
    acceptAll [] candidates = .error e ↔
      ∃ (before : List Rule) (c : RuleCandidate) (after : List RuleCandidate),
        candidates = before.map Rule.toCandidate ++ c :: after ∧
        (∀ r ∈ before, r.Acceptable) ∧ (before.map (·.id)).Nodup ∧
        c.Trips room (before.map (·.id)) e := by
  rw [acceptAll_error_iff]
  refine exists_congr fun before => exists_congr fun c => exists_congr fun after =>
    and_congr_right fun _ => ?_
  rw [acceptAll_ok_iff, and_iff_right rfl, and_assoc]
  refine and_congr_right fun _ => and_congr_right fun _ => ?_
  constructor
  · intro failed
    exact (RuleCandidate.trips_iff.mpr ⟨failed, unforeseen⟩).congr (by simp)
  · intro trips
    exact (RuleCandidate.trips_iff.mp (trips.congr (by simp))).1

theorem ofCandidates_unforeseen_iff {room : Nat} {candidates : List RuleCandidate} {version : Json}
    {e : RuleError} (unforeseen : e.Unforeseen room) :
    ofCandidates candidates version = .error e ↔
      (∃ v, version = .string v ∧ v.isEmpty = false) ∧ acceptAll [] candidates = .error e := by
  constructor
  · intro h
    unfold ofCandidates at h
    split at h
    · rename_i v
      split at h
      · cases h
        exact absurd unforeseen Bool.false_ne_true
      rename_i some_version
      split at h
      · cases h
        exact absurd unforeseen Bool.false_ne_true
      split at h
      · rename_i failed
        cases h
        exact ⟨⟨v, rfl, by simpa using some_version⟩, failed⟩
      · cases h
    · cases h
      exact absurd unforeseen Bool.false_ne_true
  · rintro ⟨⟨v, rfl, some_version⟩, failed⟩
    have some_candidate : candidates.isEmpty = false := by
      cases candidates with
      | nil => cases failed
      | cons _ _ => rfl
    simp only [ofCandidates, some_version, some_candidate, failed, Bool.false_eq_true, if_false]

/-- Candidates whose parts may be anything are accepted as the rules in good order that they spell
out, each id once, or are refused with an error of their own, unless a failure comes in its place.
One does so exactly at the first candidate that is not accepted, where this one trips a check. A
score is a number from zero to one, or an error about the rule, unless the predicate breaks it. -/
theorem accepted_or_told (room : Nat) (candidates : List RuleCandidate) (version : Json) :
    (∀ registry, ofCandidates candidates version = .ok registry →
      ∃ rules : List Rule, candidates = rules.map Rule.toCandidate ∧ registry.rules.Perm rules ∧
        (rules.map (·.id)).Nodup ∧ ∀ r ∈ rules, r.Proper) ∧
    (∀ e, ofCandidates candidates version = .error e ∧ e.Unforeseen room ↔
      (∃ v, version = .string v ∧ v.isEmpty = false) ∧
        ∃ (before : List Rule) (c : RuleCandidate) (after : List RuleCandidate),
          candidates = before.map Rule.toCandidate ++ c :: after ∧
          (∀ r ∈ before, r.Acceptable) ∧ (before.map (·.id)).Nodup ∧
          c.Trips room (before.map (·.id)) e) ∧
    ∀ (r : Rule) (symbol : Symbol) (graph : SymbolGraph),
      (∀ x, r.score symbol graph = .ok x → 0 ≤ x ∧ x ≤ 1) ∧
      (∀ e, r.score symbol graph = .error e → ¬e.Unforeseen room → e.ruleId? = some r.id) ∧
      ∀ e, r.score symbol graph = .error e ∧ e.Unforeseen room ↔
        (r.predicate symbol graph).Breaks room r.id e := by
  refine ⟨fun registry accepted => ?_, fun e => ⟨?_, ?_⟩, fun r symbol graph =>
    ⟨fun x => Rule.score_bounds, fun e => Rule.ruleId_of_score, fun e =>
      Rule.score_unforeseen_iff⟩⟩
  · obtain ⟨v, rules, -, -, -, all, rfl⟩ := ofCandidates_ok accepted
    obtain ⟨spelled, acceptable, distinct⟩ := acceptAll_ok_iff.mp all
    exact ⟨rules, spelled, List.mergeSort_perm rules ruleLe, distinct,
      fun r hr => (acceptable r hr).proper⟩
  · rintro ⟨failed, unforeseen⟩
    obtain ⟨some_version, failed⟩ := (ofCandidates_unforeseen_iff unforeseen).mp failed
    exact ⟨some_version, (acceptAll_unforeseen_iff unforeseen).mp failed⟩
  · rintro ⟨some_version, before, c, after, split, acceptable, distinct, trips⟩
    have unforeseen := trips.refused.2
    have failed := (acceptAll_unforeseen_iff unforeseen).mpr
      ⟨before, c, after, split, acceptable, distinct, trips⟩
    exact ⟨(ofCandidates_unforeseen_iff unforeseen).mpr ⟨some_version, failed⟩, unforeseen⟩

/-! ## A weight beyond the largest float -/

def heavyCandidate : RuleCandidate := candidateOf (steadyRule "AR-001") (.int (10 ^ 400))

theorem heavy_large : (Number.int (10 ^ 400)).toFloat? = none :=
  Option.isNone_iff_eq_none.mp (by decide +kernel)

theorem accepted_or_told_heavy :
    (∃ rules : List Rule, twoRules.rules.map Rule.toCandidate = rules.map Rule.toCandidate ∧
      twoRules.rules.Perm rules ∧ (rules.map (·.id)).Nodup ∧ ∀ r ∈ rules, r.Proper) ∧
    ofCandidates [(steadyRule "AR-002").toCandidate, heavyCandidate] (.string "test") =
      .error .tooLarge ∧
    ∀ symbol graph, (steadyRule "AR-002").score symbol graph = .ok 1 ∧ (0 : Float) ≤ 1 := by
  refine ⟨(accepted_or_told 900 _ _).1 _ ofCandidates_twoRules, ?_, fun symbol graph =>
    ⟨rfl, (((accepted_or_told 900 [] .null).2.2 (steadyRule "AR-002") symbol graph).1 1 rfl).1⟩⟩
  have all : acceptAll [] [(steadyRule "AR-002").toCandidate] = .ok [steadyRule "AR-002"] := rfl
  obtain ⟨-, acceptable, distinct⟩ := acceptAll_ok_iff.mp all
  exact (((accepted_or_told 900 _ _).2.1 _).mpr ⟨⟨"test", rfl, rfl⟩, [steadyRule "AR-002"],
    heavyCandidate, [], rfl, acceptable, distinct,
    .tooLarge (by decide) (by decide) rfl heavy_large⟩).1

/-- A weight may be so large that its check fails instead of refusing it. -/
theorem heavy_weight_unforeseen :
    ofCandidates [heavyCandidate] (.string "test") = .error .tooLarge ∧
      RuleError.Unforeseen 900 .tooLarge := by
  have trips : heavyCandidate.Trips 900 [] .tooLarge :=
    .tooLarge List.not_mem_nil (by decide) rfl heavy_large
  obtain ⟨refused, unforeseen⟩ := trips.refused
  have failed : acceptAll [] [heavyCandidate] = .error .tooLarge :=
    acceptAll_cons_error_iff.mpr (Or.inl refused)
  exact ⟨(ofCandidates_unforeseen_iff unforeseen).mpr ⟨⟨"test", rfl, rfl⟩, failed⟩, unforeseen⟩

end RuleRegistry

end TacticalDesign
