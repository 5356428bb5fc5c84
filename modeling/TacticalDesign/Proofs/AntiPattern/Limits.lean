import TacticalDesign.Proofs.AntiPattern.Recurring
/-!
# Raising the limits

Every limit of the detectors takes findings away when it is raised. What recurs does not depend on
the limits, which only say how large a combination and how many its symbols have to be, so of the
recurring combinations just those are left that meet the raised limits.
-/

namespace TacticalDesign

/-- No limit of the detectors is smaller in the second configuration. -/
structure ScanConfig.LimitsLe (config config' : ScanConfig) : Prop where
  godClassMaxMethods : config.godClassMaxMethods ≤ config'.godClassMaxMethods
  godClassMaxFields : config.godClassMaxFields ≤ config'.godClassMaxFields
  godClassMinVerbs : config.godClassMinVerbs ≤ config'.godClassMinVerbs
  megaAggregateMaxEntities : config.megaAggregateMaxEntities ≤ config'.megaAggregateMaxEntities
  obsessionMinFields : config.obsessionMinFields ≤ config'.obsessionMinFields
  obsessionMinSymbols : config.obsessionMinSymbols ≤ config'.obsessionMinSymbols

namespace AntiPattern

variable {config config' : ScanConfig} {graph : SymbolGraph} {roles : RoleMap} {r : Recurrence}

/-! ## Symbols on their own and aggregates -/

theorem isGodClass_of_limitsLe (le : config.LimitsLe config') {s : Symbol}
    (h : isGodClass config' s = true) : isGodClass config s = true := by
  obtain ⟨methods, fields, verbs, -, -, -⟩ := le
  simp only [isGodClass, Bool.and_eq_true, decide_eq_true_eq] at h ⊢
  omega

theorem mem_godClasses_of_limitsLe (le : config.LimitsLe config') {f : Finding}
    (h : f ∈ godClasses config' graph) : f ∈ godClasses config graph := by
  obtain ⟨s, hs, rfl⟩ := List.mem_map.mp h
  obtain ⟨inside, large⟩ := List.mem_filter.mp hs
  exact List.mem_map_of_mem (List.mem_filter.mpr ⟨inside, isGodClass_of_limitsLe le large⟩)

/-- The limit stands in the evidence, so only the symbol of the finding is the same. -/
theorem exists_megaAggregate_of_limitsLe (le : config.LimitsLe config') {f : Finding}
    (h : f ∈ megaAggregates config' graph roles) :
    ∃ f' ∈ megaAggregates config graph roles, f'.symbolIds = f.symbolIds := by
  obtain ⟨s, hs, found⟩ := List.mem_filterMap.mp h
  simp only at found
  split at found
  · rename_i large
    cases found
    have large' : (roles.hasRole s.id .aggregateRoot && decide (config.megaAggregateMaxEntities <
        (entityChildren graph roles s).length)) = true := by
      have limit := le.megaAggregateMaxEntities
      rw [Bool.and_eq_true, decide_eq_true_eq] at large ⊢
      exact ⟨large.1, by omega⟩
    exact ⟨_, List.mem_filterMap.mpr ⟨s, hs, if_pos large'⟩, rfl⟩
  · cases found

/-! ## Recurring combinations -/

theorem recurs_of_limitsLe (le : config.LimitsLe config') :
    Recurs config' graph roles r ↔ Recurs config graph roles r ∧
      config'.obsessionMinFields ≤ r.combination.length ∧
      config'.obsessionMinSymbols ≤ r.members.length := by
  have fields := le.obsessionMinFields
  have symbols := le.obsessionMinSymbols
  rw [recurs_iff, recurs_iff]
  constructor
  · rintro ⟨h, large, enough⟩
    exact ⟨⟨h, fields.trans large, symbols.trans enough⟩, large, enough⟩
  · rintro ⟨⟨h, -, -⟩, large, enough⟩
    exact ⟨h, large, enough⟩

/-- A finding on a recurring combination whose names and symbols are as many as the limits say. -/
def MeetsLimits (config config' : ScanConfig) (graph : SymbolGraph) (roles : RoleMap)
    (f : Finding) : Prop :=
  ∃ combination, Obsession config graph roles combination f ∧
    config'.obsessionMinFields ≤ combination.length ∧
    config'.obsessionMinSymbols ≤ f.symbolIds.length

theorem mem_obsessions_of_limitsLe (le : config.LimitsLe config') {f : Finding} :
    f ∈ (detect config' graph roles).filter (·.ruleId == "AP-003") ↔
      f ∈ (detect config graph roles).filter (·.ruleId == "AP-003") ∧
        MeetsLimits config config' graph roles f := by
  rw [mem_obsessions, mem_obsessions]
  have counted : ∀ r : Recurrence, r.finding.symbolIds.length = r.members.length := fun r =>
    List.length_map _
  constructor
  · rintro ⟨r, h, rfl⟩
    obtain ⟨h', large, enough⟩ := (recurs_of_limitsLe le).mp h
    exact ⟨⟨r, h', rfl⟩, r.combination, h'.obsession, large, (counted r).symm ▸ enough⟩
  · rintro ⟨⟨r, h, rfl⟩, combination, shows, large, enough⟩
    obtain rfl := shows.combination_unique h.obsession rfl
    exact ⟨r, (recurs_of_limitsLe le).mpr ⟨h, large, counted r ▸ enough⟩, rfl⟩

/-- A finding under raised limits is one of the same rule on the same symbols as before. -/
theorem exists_finding_of_limitsLe (le : config.LimitsLe config') {f' : Finding}
    (found : f' ∈ detect config' graph roles) :
    ∃ f ∈ detect config graph roles, f.ruleId = f'.ruleId ∧ f.symbolIds = f'.symbolIds := by
  by_cases rule : f'.ruleId = "AP-003"
  · have before := (mem_obsessions_of_limitsLe le).mp
      (List.mem_filter.mpr ⟨found, beq_iff_eq.mpr rule⟩)
    exact ⟨f', (List.mem_filter.mp before.1).1, rfl, rfl⟩
  · rcases (mem_detect config' graph roles).mp found with ((((h | h) | h) | h) | h) | h
    · exact ⟨f', (mem_detect config graph roles).mpr (by simp [h]), rfl, rfl⟩
    · have h' := mem_godClasses_of_limitsLe le h
      exact ⟨f', (mem_detect config graph roles).mpr (by simp [h']), rfl, rfl⟩
    · exact absurd (makes_primitiveObsessions config' graph roles f' h).ruleId rule
    · obtain ⟨f, hf, same⟩ := exists_megaAggregate_of_limitsLe le h
      refine ⟨f, (mem_detect config graph roles).mpr (by simp [hf]), ?_, same⟩
      rw [(makes_megaAggregates config graph roles f hf).ruleId,
        (makes_megaAggregates config' graph roles f' h).ruleId]
    · exact ⟨f', (mem_detect config graph roles).mpr (by simp [h]), rfl, rfl⟩
    · exact ⟨f', (mem_detect config graph roles).mpr (by simp [h]), rfl, rfl⟩

open Classical in
/-- Under raised limits every finding is one of the same rule on the same symbols as before, and of
the findings on recurring combinations just those are left that meet the limits. -/
theorem raised_limits (le : config.LimitsLe config') (graph : SymbolGraph) (roles : RoleMap) :
    (∀ f' ∈ detect config' graph roles, ∃ f ∈ detect config graph roles,
      f.ruleId = f'.ruleId ∧ f.symbolIds = f'.symbolIds) ∧
    (detect config' graph roles).filter (·.ruleId == "AP-003") =
      ((detect config graph roles).filter (·.ruleId == "AP-003")).filter fun f =>
        MeetsLimits config config' graph roles f := by
  refine ⟨fun f' found => exists_finding_of_limitsLe le found, ?_⟩
  have ordered : ∀ c, ((detect c graph roles).filter (·.ruleId == "AP-003")).Pairwise
      fun a b => a.precedes b = true := fun c => (detect_in_order c graph roles).filter _
  refine List.Perm.eq_of_pairwise ?_ (ordered config') ((ordered config).filter _)
    ((List.perm_ext_iff_of_nodup nodup_obsessions (nodup_obsessions.filter _)).mpr fun f => ?_)
  · intro f f' hf hf' hab hba
    have before := ((mem_obsessions_of_limitsLe le).mp hf).1
    have before' := (List.mem_filter.mp hf').1
    have rule : ∀ {f}, f ∈ (detect config graph roles).filter (·.ruleId == "AP-003") →
        f.ruleId = "AP-003" := fun h => beq_iff_eq.mp (List.mem_filter.mp h).2
    exact eq_of_symbolIds before before' (Finding.symbolIds_of_precedes
      ((rule before).trans (rule before').symm) hab hba)
  · rw [mem_obsessions_of_limitsLe le, List.mem_filter (p := fun f =>
      decide (MeetsLimits config config' graph roles f)), decide_eq_true_eq]

open Classical in
/-- Any two of the three classes of the ledger share three names, which makes findings. Where three
classes are needed those are left that are on three classes. -/
theorem raised_limits_ledger :
    ScanConfig.LimitsLe {} { obsessionMinSymbols := 3 } ∧
    (∃ f ∈ detect {} ledger ledgerRoles, f.ruleId = "AP-003") ∧
    (∀ f' ∈ detect { obsessionMinSymbols := 3 } ledger ledgerRoles,
      ∃ f ∈ detect {} ledger ledgerRoles, f.ruleId = f'.ruleId ∧ f.symbolIds = f'.symbolIds) ∧
    (detect { obsessionMinSymbols := 3 } ledger ledgerRoles).filter (·.ruleId == "AP-003") =
      ((detect {} ledger ledgerRoles).filter (·.ruleId == "AP-003")).filter fun f =>
        MeetsLimits {} { obsessionMinSymbols := 3 } ledger ledgerRoles f := by
  have le : ScanConfig.LimitsLe {} { obsessionMinSymbols := 3 } :=
    ⟨by decide, by decide, by decide, by decide, by decide, by decide⟩
  have common : Recurring {} ledger ledgerRoles {"amount", "currency"} :=
    recurring_ledger (by decide) (by decide)
  obtain ⟨names, h, shared⟩ := common.exists_sharedByTwo rfl
  exact ⟨le, exists_obsession_iff.mpr (h.recurs shared), raised_limits le ledger ledgerRoles⟩

end AntiPattern

end TacticalDesign
