import Mathlib.Data.List.Pairwise
import TacticalDesign.ChangeRecord
import TacticalDesign.Proofs.Graph.Assembly
/-!
# Matching a baseline with a graph

A schema tag is readable when it is there and its major part is the current one. Aliases fit two
graphs when they lead from symbols of one to symbols of the other and no two baseline symbols come
to stand for one current symbol. These are the only conditions under which graphs are compared.
-/

namespace TacticalDesign

namespace Baseline

/-- A tag that is there and whose part before the first dot is `1`. -/
def HasCurrentMajor (tag : Option String) : Prop :=
  ∃ t, tag = some t ∧ t ≠ "" ∧ majorPart t = ['1']

theorem isReadable_iff {tag : Option String} : isReadable tag = true ↔ HasCurrentMajor tag := by
  have current : majorPart currentSchema = ['1'] := by decide
  cases tag with
  | none => simp [isReadable, HasCurrentMajor]
  | some t => simp [isReadable, HasCurrentMajor, current]

theorem checkSchema_ok_iff {tag : Option String} :
    checkSchema tag = .ok () ↔ HasCurrentMajor tag := by
  rw [← isReadable_iff, checkSchema]
  split <;> simp_all

end Baseline

namespace Aliases

variable {aliases : Aliases} {old new : SymbolGraph}

/-- Some alias starts outside the baseline or leads outside the graph, or two baseline symbols mean
the same current symbol. -/
def Misfit (aliases : Aliases) (old new : SymbolGraph) : Prop :=
  (∃ p ∈ aliases, p.1 ∉ old.ids) ∨ (∃ p ∈ aliases, p.2 ∉ new.ids) ∨
    ∃ o ∈ old.ids, ∃ o' ∈ old.ids,
      o ≠ o' ∧ aliases.target o = aliases.target o' ∧ aliases.target o ∈ new.ids

theorem dangling?_eq_none_iff :
    dangling? old new aliases = none ↔ ∀ p ∈ aliases, p.1 ∈ old.ids ∧ p.2 ∈ new.ids := by
  induction aliases with
  | nil => simp [dangling?]
  | cons p rest ih =>
      obtain ⟨a, b⟩ := p
      rw [dangling?, List.forall_mem_cons, ← ih, ← SymbolGraph.contains_iff,
        ← SymbolGraph.contains_iff]
      cases ha : old.contains a <;> cases hb : new.contains b <;> simp

def Clash (aliases : Aliases) (new : SymbolGraph) (o o' : String) : Prop :=
  aliases.target o ∈ new.ids ∧ aliases.target o = aliases.target o'

theorem clash?_eq_none_iff {taken : List (String × String)} {ids : List String} :
    clash? aliases new taken ids = none ↔
      (∀ o ∈ ids, aliases.target o ∈ new.ids → ∀ p ∈ taken, p.1 ≠ aliases.target o) ∧
        ids.Pairwise fun o o' => ¬Clash aliases new o o' := by
  induction ids generalizing taken with
  | nil => simp [clash?]
  | cons o rest ih =>
      rw [clash?, List.forall_mem_cons, List.pairwise_cons]
      by_cases inside : aliases.target o ∈ new.ids
      · have hc := SymbolGraph.contains_iff.mpr inside
        simp only [hc, Bool.not_true, Bool.false_eq_true, if_false, inside, forall_const]
        cases hf : taken.find? (·.1 == aliases.target o) with
        | some p =>
            have hp := List.mem_of_find?_eq_some hf
            have he : p.1 = aliases.target o := by simpa using List.find?_some hf
            simp only [reduceCtorEq, false_iff, not_and]
            intro h
            exact absurd he (h.1 p hp)
        | none =>
            have free : ∀ p ∈ taken, p.1 ≠ aliases.target o := by
              simpa using List.find?_eq_none.mp hf
            simp only [ih, List.forall_mem_cons]
            constructor
            · rintro ⟨apart, pairs⟩
              refine ⟨⟨free, fun o' ho' hin p hp => (apart o' ho' hin).2 p hp⟩, ?_, pairs⟩
              intro o' ho' hclash
              exact (apart o' ho' (hclash.2 ▸ inside)).1 hclash.2
            · rintro ⟨⟨-, apart⟩, no_clash, pairs⟩
              refine ⟨fun o' ho' hin => ⟨fun e => no_clash o' ho' ⟨inside, e⟩, ?_⟩, pairs⟩
              exact apart o' ho' hin
      · have hc : new.contains (aliases.target o) = false := by
          rw [← Bool.not_eq_true, SymbolGraph.contains_iff]
          exact inside
        have hno : ∀ o', ¬Clash aliases new o o' := fun o' h => inside h.1
        simp [hc, inside, ih, hno]

theorem clash_symm {o o' : String} (h : Clash aliases new o o') : Clash aliases new o' o :=
  ⟨h.2 ▸ h.1, h.2.symm⟩

/-- Where aliases fit, only a symbol that no alias is about can be without a match. -/
theorem target_eq_self (fit : ¬Misfit aliases old new) {o : String}
    (unmatched : aliases.target o ∉ new.ids) : aliases.target o = o := by
  unfold target at unmatched ⊢
  cases hf : aliases.find? (·.1 == o) with
  | none => rfl
  | some p =>
      refine absurd (Or.inr (Or.inl ⟨p, List.mem_of_find?_eq_some hf, ?_⟩)) fit
      simpa [hf] using unmatched

theorem target_injective (fit : ¬Misfit aliases old new) {o o' : String} (ho : o ∈ old.ids)
    (ho' : o' ∈ old.ids) (e : aliases.target o = aliases.target o') : o = o' := by
  by_contra hne
  by_cases matched : aliases.target o ∈ new.ids
  · exact fit (Or.inr (Or.inr ⟨o, ho, o', ho', hne, e, matched⟩))
  · have h := target_eq_self fit matched
    have h' := target_eq_self fit (e ▸ matched)
    exact hne (h.symm.trans (e.trans h'))

theorem target_nil (id : String) : target [] id = id := rfl

theorem not_misfit_nil (old new : SymbolGraph) : ¬Misfit [] old new := by
  rintro (⟨p, hp, -⟩ | ⟨p, hp, -⟩ | ⟨o, -, o', -, differ, same, -⟩)
  · cases hp
  · cases hp
  · exact differ same

theorem check_ok_iff : aliases.check old new = .ok () ↔ ¬Misfit aliases old new := by
  have pairs : (old.ids.Pairwise fun o o' => ¬Clash aliases new o o') ↔
      ∀ o ∈ old.ids, ∀ o' ∈ old.ids, o ≠ o' → ¬Clash aliases new o o' := by
    constructor
    · intro h o ho o' ho' hne
      have : Std.Symm fun o o' => ¬Clash aliases new o o' :=
        ⟨fun a b hab hba => hab (clash_symm hba)⟩
      exact h.forall ho ho' hne
    · exact List.Nodup.pairwise_of_forall_ne old.ids_nodup
  have accepted : aliases.check old new = .ok () ↔
      dangling? old new aliases.sorted = none ∧ clash? aliases new [] old.ids = none := by
    rw [← Option.or_eq_none_iff, check]
    cases (dangling? old new aliases.sorted).or (clash? aliases new [] old.ids) <;> simp
  have sorted : ∀ p, p ∈ aliases.sorted ↔ p ∈ aliases := fun p => List.mem_mergeSort
  rw [accepted, dangling?_eq_none_iff, clash?_eq_none_iff, pairs]
  simp only [sorted, Misfit, Clash]
  push Not
  constructor
  · rintro ⟨known, -, apart⟩
    refine ⟨fun p hp => (known p hp).1, fun p hp => (known p hp).2, ?_⟩
    intro o ho o' ho' hne e hin
    exact apart o ho o' ho' hne hin e
  · rintro ⟨starts, leads, apart⟩
    refine ⟨fun p hp => ⟨starts p hp, leads p hp⟩, by simp, ?_⟩
    intro o ho o' ho' hne hin e
    exact apart o ho o' ho' hne e hin

end Aliases

end TacticalDesign
