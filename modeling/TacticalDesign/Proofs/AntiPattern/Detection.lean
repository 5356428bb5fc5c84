import TacticalDesign.AntiPattern
import TacticalDesign.Proofs.Order
/-!
# The findings of each detector

A detector only makes findings of its own anti-pattern, so a finding of a scan shows by its rule
which detector made it. All findings are in order, by rule and then by symbols.
-/

namespace TacticalDesign

namespace Finding

theorem precedes_eq : precedes = byText (·.ruleId) fun a b => textsLe a.symbolIds b.symbolIds := rfl

theorem precedes_trans (a b c : Finding) :
    a.precedes b = true → b.precedes c = true → a.precedes c = true := by
  rw [precedes_eq]
  exact byText_trans (fun a b c => textsLe_trans a.symbolIds b.symbolIds c.symbolIds) a b c

theorem precedes_total (a b : Finding) : (a.precedes b || b.precedes a) = true := by
  rw [precedes_eq]
  exact byText_total (fun a b => textsLe_total a.symbolIds b.symbolIds) a b

theorem symbolIds_of_precedes {a b : Finding} (rule : a.ruleId = b.ruleId)
    (hab : a.precedes b = true) (hba : b.precedes a = true) : a.symbolIds = b.symbolIds := by
  rw [precedes, if_pos rule] at hab
  rw [precedes, if_pos rule.symm] at hba
  exact textsLe_antisymm hab hba

end Finding

namespace AntiPattern

/-- A finding with the fixed part of an anti-pattern. -/
def Makes (p : AntiPattern) (f : Finding) : Prop :=
  ∃ symbolIds evidence, f = p.finding symbolIds evidence

theorem Makes.ruleId {p : AntiPattern} {f : Finding} (h : p.Makes f) : f.ruleId = p.ruleId := by
  obtain ⟨symbolIds, evidence, rfl⟩ := h
  rfl

theorem Makes.severity {p : AntiPattern} {f : Finding} (h : p.Makes f) :
    f.severity = p.severity := by
  obtain ⟨symbolIds, evidence, rfl⟩ := h
  rfl

variable (config : ScanConfig) (graph : SymbolGraph) (roles : RoleMap)

theorem makes_anemicModels : ∀ f ∈ anemicModels graph roles, anemicModel.Makes f := by
  intro f h
  obtain ⟨s, -, hs⟩ := List.mem_filterMap.mp h
  split at hs
  · cases hs
  · split at hs
    · cases hs
      exact ⟨_, _, rfl⟩
    · cases hs

theorem makes_godClasses : ∀ f ∈ godClasses config graph, godClass.Makes f := by
  intro f h
  obtain ⟨s, -, rfl⟩ := List.mem_map.mp h
  exact ⟨_, _, rfl⟩

theorem makes_primitiveObsessions :
    ∀ f ∈ primitiveObsessions config graph roles, primitiveObsession.Makes f := by
  intro f h
  obtain ⟨r, -, rfl⟩ := List.mem_map.mp h
  exact ⟨_, _, rfl⟩

theorem makes_megaAggregates :
    ∀ f ∈ megaAggregates config graph roles, megaAggregate.Makes f := by
  intro f h
  obtain ⟨s, -, hs⟩ := List.mem_filterMap.mp h
  simp only at hs
  split at hs
  · cases hs
    exact ⟨_, _, rfl⟩
  · cases hs

theorem makes_crossAggregateReferences :
    ∀ f ∈ crossAggregateReferences graph roles, crossAggregateReference.Makes f := by
  intro f h
  obtain ⟨s, -, hs⟩ := List.mem_flatMap.mp h
  obtain ⟨e, -, rfl⟩ := List.mem_map.mp hs
  exact ⟨_, _, rfl⟩

theorem makes_missingRepositories :
    ∀ f ∈ missingRepositories graph roles, missingRepository.Makes f := by
  intro f h
  obtain ⟨s, -, rfl⟩ := List.mem_map.mp h
  exact ⟨_, _, rfl⟩

def catalog : List AntiPattern :=
  [anemicModel, godClass, primitiveObsession, megaAggregate, crossAggregateReference,
    missingRepository]

theorem mem_detect {f : Finding} : f ∈ detect config graph roles ↔
    ((((f ∈ anemicModels graph roles ∨ f ∈ godClasses config graph) ∨
      f ∈ primitiveObsessions config graph roles) ∨ f ∈ megaAggregates config graph roles) ∨
      f ∈ crossAggregateReferences graph roles) ∨ f ∈ missingRepositories graph roles := by
  simp only [detect, List.mem_mergeSort, List.mem_append]

private theorem filter_of_makes {p : AntiPattern} {found : List Finding}
    (makes : ∀ f ∈ found, p.Makes f) (ruleId : String) :
    found.filter (·.ruleId == ruleId) = if p.ruleId = ruleId then found else [] := by
  split
  · rename_i same
    refine List.filter_eq_self.mpr fun f hf => ?_
    rw [(makes f hf).ruleId, same, beq_self_eq_true]
  · rename_i apart
    refine List.filter_eq_nil_iff.mpr fun f hf => ?_
    rw [(makes f hf).ruleId, beq_iff_eq]
    exact apart

/-- The findings of a scan with a rule are those of the detectors with that rule. -/
theorem filter_detect_perm (ruleId : String) :
    ((detect config graph roles).filter (·.ruleId == ruleId)).Perm
      ((if anemicModel.ruleId = ruleId then anemicModels graph roles else []) ++
        (if godClass.ruleId = ruleId then godClasses config graph else []) ++
        (if primitiveObsession.ruleId = ruleId then primitiveObsessions config graph roles
          else []) ++
        (if megaAggregate.ruleId = ruleId then megaAggregates config graph roles else []) ++
        (if crossAggregateReference.ruleId = ruleId then crossAggregateReferences graph roles
          else []) ++
        (if missingRepository.ruleId = ruleId then missingRepositories graph roles else [])) := by
  refine ((List.mergeSort_perm _ _).filter _).trans ?_
  simp only [List.filter_append, filter_of_makes (makes_anemicModels graph roles),
    filter_of_makes (makes_godClasses config graph),
    filter_of_makes (makes_primitiveObsessions config graph roles),
    filter_of_makes (makes_megaAggregates config graph roles),
    filter_of_makes (makes_crossAggregateReferences graph roles),
    filter_of_makes (makes_missingRepositories graph roles)]
  exact List.Perm.refl _

theorem detect_in_order : (detect config graph roles).Pairwise fun a b => a.precedes b = true :=
  List.pairwise_mergeSort Finding.precedes_trans Finding.precedes_total _

theorem exists_makes {f : Finding} (h : f ∈ detect config graph roles) :
    ∃ p ∈ catalog, p.Makes f := by
  rcases (mem_detect config graph roles).mp h with ((((h | h) | h) | h) | h) | h
  · exact ⟨_, by simp [catalog], makes_anemicModels graph roles f h⟩
  · exact ⟨_, by simp [catalog], makes_godClasses config graph f h⟩
  · exact ⟨_, by simp [catalog], makes_primitiveObsessions config graph roles f h⟩
  · exact ⟨_, by simp [catalog], makes_megaAggregates config graph roles f h⟩
  · exact ⟨_, by simp [catalog], makes_crossAggregateReferences graph roles f h⟩
  · exact ⟨_, by simp [catalog], makes_missingRepositories graph roles f h⟩

end AntiPattern

end TacticalDesign
