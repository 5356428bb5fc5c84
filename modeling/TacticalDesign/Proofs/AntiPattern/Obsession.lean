import Mathlib.Data.List.Perm.Subperm
import TacticalDesign.Proofs.AntiPattern.Detection
import TacticalDesign.Proofs.Graph.Assembly
/-!
# Recurring combinations are closed

A combination is what two holders share, so whoever has all of it makes it what all of them share:
the combination and the symbols that have it determine each other. For every set of symbols there
is one combination at most.
-/

namespace TacticalDesign

/-- A symbol has a primitive field of a normalized name that is no identity of its own. -/
def Symbol.HasPrimitive (s : Symbol) (name : String) : Prop :=
  ∃ f ∈ s.fields, isPrimitiveType f.declaredType = true ∧ s.ownsIdentityField f = false ∧
    normalizeName f.name = name

/-- A symbol has a role, and another one than that of a value object. -/
def RoleMap.Counts (roles : RoleMap) (s : Symbol) : Prop :=
  ∃ role, roles.role? s.id = some role ∧ role ≠ .valueObject

namespace AntiPattern

variable {config : ScanConfig} {graph : SymbolGraph} {roles : RoleMap} {symbols : List Symbol}
  {a b s : Symbol} {c : List String} {name : String}

/-! ## Names and combinations -/

theorem mem_primitiveNames : name ∈ primitiveNames s ↔ s.HasPrimitive name := by
  simp only [primitiveNames, mem_textSet, primitiveFields, List.mem_map, List.mem_filter,
    Bool.and_eq_true, Bool.not_eq_true', Symbol.HasPrimitive, and_assoc]

theorem hasAllFields_iff : hasAllFields c s = true ↔ ∀ n ∈ c, s.HasPrimitive n := by
  simp only [hasAllFields, List.all_eq_true, decide_eq_true_eq, mem_primitiveNames]

theorem mem_sharedNames :
    name ∈ sharedNames a b ↔ a.HasPrimitive name ∧ b.HasPrimitive name := by
  simp only [sharedNames, List.mem_filter, decide_eq_true_eq, mem_primitiveNames]

theorem ascend_sharedNames (a b : Symbol) : (sharedNames a b).Pairwise (· < ·) :=
  (ascend_textSet _).filter _

theorem mem_pairCombinations (ascend : symbols.Pairwise fun a b => a.id < b.id) :
    c ∈ pairCombinations symbols ↔
      ∃ a ∈ symbols, ∃ b ∈ symbols, a.id < b.id ∧ c = sharedNames a b := by
  induction symbols with
  | nil => simp [pairCombinations]
  | cons s rest ih =>
      obtain ⟨first, later⟩ := List.pairwise_cons.mp ascend
      rw [pairCombinations, List.mem_append, List.mem_map, ih later]
      constructor
      · rintro (⟨b, hb, rfl⟩ | ⟨a, ha, b, hb, lt, rfl⟩)
        · exact ⟨s, List.mem_cons_self, b, List.mem_cons_of_mem s hb, first b hb, rfl⟩
        · exact ⟨a, List.mem_cons_of_mem s ha, b, List.mem_cons_of_mem s hb, lt, rfl⟩
      · rintro ⟨a, ha, b, hb, lt, rfl⟩
        rcases List.mem_cons.mp hb with rfl | hb'
        · -- Nothing stands in front of the first symbol.
          rcases List.mem_cons.mp ha with rfl | ha'
          · exact absurd lt (String.lt_irrefl a.id)
          · exact absurd lt (String.lt_asymm (first a ha'))
        · rcases List.mem_cons.mp ha with rfl | ha'
          · exact Or.inl ⟨b, hb', rfl⟩
          · exact Or.inr ⟨a, ha', b, hb', lt, rfl⟩

theorem mem_holders : s ∈ holders config graph roles ↔
    s ∈ graph.symbols ∧ config.obsessionMinFields ≤ (primitiveNames s).length ∧
      roles.Counts s := by
  simp only [holders, primitiveSymbols, List.mem_filter, decide_eq_true_eq, Bool.and_eq_true,
    Bool.not_eq_true', isValueObject, RoleMap.hasRole, RoleMap.Counts, and_assoc]
  refine and_congr_right fun _ => and_congr_right fun _ => ?_
  cases roles.role? s.id with
  | none => simp
  | some role => simp

theorem ascend_holders (config : ScanConfig) (graph : SymbolGraph) (roles : RoleMap) :
    (holders config graph roles).Pairwise fun a b => a.id < b.id :=
  (graph.symbols_ascend.filter _).filter _

theorem takes_part (ascend : c.Pairwise (· < ·)) (large : config.obsessionMinFields ≤ c.length)
    (all : ∀ n ∈ c, s.HasPrimitive n) :
    config.obsessionMinFields ≤ (primitiveNames s).length := by
  have distinct : c.Nodup := nodup_of_ascend id ascend
  have fewer : c.length ≤ (primitiveNames s).length :=
    (distinct.subperm fun n hn => mem_primitiveNames.mpr (all n hn)).length_le
  omega

/-! ## Recurrences -/

/-- A recurrence that the detector keeps: what two different holders share, with all the holders
that have it, when they are enough and no value object has it. -/
structure Recurs (config : ScanConfig) (graph : SymbolGraph) (roles : RoleMap) (r : Recurrence) :
    Prop where
  shared : ∃ a ∈ holders config graph roles, ∃ b ∈ holders config graph roles,
    a.id < b.id ∧ r.combination = sharedNames a b
  large : config.obsessionMinFields ≤ r.combination.length
  members : r.members = (holders config graph roles).filter (hasAllFields r.combination)
  enough : config.obsessionMinSymbols ≤ r.members.length
  spared : ∀ s ∈ primitiveSymbols config graph, isValueObject roles s = true →
    hasAllFields r.combination s = false

/-- What tells recurrences apart. -/
def Recurrence.memberIds (r : Recurrence) : List String := r.members.map (·.id)

/-- Merging keeps or replaces a recurrence, or adds one for new members. -/
theorem Recurrence.mem_merge {q r : Recurrence} {kept : List Recurrence} (h : q ∈ r.merge kept) :
    q = r ∨ q ∈ kept := by
  induction kept with
  | nil => exact Or.inl (List.mem_singleton.mp h)
  | cons p rest ih =>
      rw [Recurrence.merge] at h
      split at h
      · rcases List.mem_cons.mp h with rfl | later
        · split
          · exact Or.inl rfl
          · exact Or.inr List.mem_cons_self
        · exact Or.inr (List.mem_cons_of_mem p later)
      · rcases List.mem_cons.mp h with rfl | later
        · exact Or.inr List.mem_cons_self
        · exact (ih later).imp_right (List.mem_cons_of_mem p)

theorem Recurrence.distinct_merge (r : Recurrence) {kept : List Recurrence}
    (distinct : (kept.map memberIds).Nodup) : ((r.merge kept).map memberIds).Nodup := by
  induction kept with
  | nil => simp [Recurrence.merge]
  | cons p rest ih =>
      obtain ⟨fresh, distinct'⟩ := List.nodup_cons.mp (List.map_cons ▸ distinct)
      rw [Recurrence.merge]
      split
      · rename_i same
        have key : (if p.combination.length < r.combination.length then r else p).memberIds =
            p.memberIds := by
          split
          · exact same.symm
          · rfl
        rw [List.map_cons, key]
        exact distinct
      · rename_i apart
        rw [List.map_cons, List.nodup_cons]
        refine ⟨fun again => ?_, ih distinct'⟩
        obtain ⟨q, hq, same⟩ := List.mem_map.mp again
        rcases mem_merge hq with rfl | old
        · exact apart same.symm
        · exact fresh (List.mem_map.mpr ⟨q, old, same⟩)

/-- What holds of the recurrences found holds of those kept, each set of members being kept once. -/
theorem Recurrence.foldl_merge {P : Recurrence → Prop} {found kept : List Recurrence}
    (hfound : ∀ r ∈ found, P r) (hkept : ∀ r ∈ kept, P r) (distinct : (kept.map memberIds).Nodup) :
    (∀ r ∈ found.foldl (fun kept r => r.merge kept) kept, P r) ∧
      ((found.foldl (fun kept r => r.merge kept) kept).map memberIds).Nodup := by
  induction found generalizing kept with
  | nil => exact ⟨hkept, distinct⟩
  | cons r rest ih =>
      refine ih (fun q hq => hfound q (List.mem_cons_of_mem r hq)) ?_ (distinct_merge r distinct)
      intro q hq
      rcases mem_merge hq with rfl | old
      · exact hfound q List.mem_cons_self
      · exact hkept q old

theorem recurrences_spec (config : ScanConfig) (graph : SymbolGraph) (roles : RoleMap) :
    (∀ r ∈ recurrences config graph roles, Recurs config graph roles r) ∧
      ((recurrences config graph roles).map Recurrence.memberIds).Nodup := by
  refine Recurrence.foldl_merge ?_ (by simp) (by simp)
  intro r hr
  obtain ⟨c, hc, kept⟩ := List.mem_filterMap.mp hr
  simp only at kept
  split at kept
  · rename_i fits
    cases kept
    rw [combinations, mem_dropRepeats, List.mem_mergeSort, List.mem_filter,
      decide_eq_true_eq] at hc
    rw [Bool.and_eq_true, decide_eq_true_eq, Bool.not_eq_true', List.any_eq_false] at fits
    refine ⟨(mem_pairCombinations (ascend_holders config graph roles)).mp hc.1, hc.2, rfl, fits.1,
      fun s hs value => ?_⟩
    simpa using fits.2 s (List.mem_filter.mpr ⟨hs, value⟩)
  · cases kept

namespace Recurs

variable {r : Recurrence}

theorem ascend (h : Recurs config graph roles r) : r.combination.Pairwise (· < ·) := by
  obtain ⟨a, -, b, -, -, e⟩ := h.shared
  exact e ▸ ascend_sharedNames a b

theorem mem_members (h : Recurs config graph roles r) : s ∈ r.members ↔
    s ∈ graph.symbols ∧ roles.Counts s ∧ ∀ n ∈ r.combination, s.HasPrimitive n := by
  rw [h.members, List.mem_filter, mem_holders, hasAllFields_iff]
  constructor
  · rintro ⟨⟨inside, -, counts⟩, all⟩
    exact ⟨inside, counts, all⟩
  · rintro ⟨inside, counts, all⟩
    exact ⟨⟨inside, takes_part h.ascend h.large all, counts⟩, all⟩

/-- The two holders that share the combination are members, so what all members have they have. -/
theorem mem_combination (h : Recurs config graph roles r) :
    name ∈ r.combination ↔ ∀ s ∈ r.members, s.HasPrimitive name := by
  constructor
  · exact fun hn s hs => (h.mem_members.mp hs).2.2 name hn
  · intro common
    obtain ⟨a, ha, b, hb, -, e⟩ := h.shared
    have member : ∀ s ∈ holders config graph roles, (∀ n ∈ sharedNames a b, s.HasPrimitive n) →
        s ∈ r.members := by
      intro s hs all
      rw [h.members, List.mem_filter, hasAllFields_iff, e]
      exact ⟨hs, all⟩
    rw [e, mem_sharedNames]
    exact ⟨common a (member a ha fun n hn => (mem_sharedNames.mp hn).1),
      common b (member b hb fun n hn => (mem_sharedNames.mp hn).2)⟩

theorem memberIds_ascend (h : Recurs config graph roles r) : r.memberIds.Pairwise (· < ·) := by
  refine List.pairwise_map.mpr ?_
  rw [h.members]
  exact (ascend_holders config graph roles).filter _

end Recurs

/-! ## Findings -/

/-- A finding on a combination of names: the symbols that have all of it are all the symbols with
another role than value object that do, and the combination is all that these have in common. -/
structure Obsession (config : ScanConfig) (graph : SymbolGraph) (roles : RoleMap)
    (combination : List String) (f : Finding) : Prop where
  shown : f.evidence.head? = some ("fields=" ++ commaList combination)
  names_ascend : combination.Pairwise (· < ·)
  enough_names : config.obsessionMinFields ≤ combination.length
  symbols_ascend : f.symbolIds.Pairwise (· < ·)
  enough_symbols : config.obsessionMinSymbols ≤ f.symbolIds.length
  mem_symbolIds : ∀ id, id ∈ f.symbolIds ↔ ∃ s ∈ graph.symbols, s.id = id ∧ roles.Counts s ∧
    ∀ n ∈ combination, s.HasPrimitive n
  mem_combination : ∀ n, n ∈ combination ↔
    ∀ s ∈ graph.symbols, s.id ∈ f.symbolIds → s.HasPrimitive n
  value_lacks : ∀ s ∈ graph.symbols, roles.role? s.id = some .valueObject →
    ∃ n ∈ combination, ¬s.HasPrimitive n

namespace Obsession

variable {c' : List String} {f f' : Finding}

theorem combination_unique (h : Obsession config graph roles c f)
    (h' : Obsession config graph roles c' f') (same : f.symbolIds = f'.symbolIds) : c = c' := by
  refine eq_of_ascend id h.names_ascend h'.names_ascend fun n => ?_
  rw [h.mem_combination, h'.mem_combination, same]

theorem symbolIds_unique (h : Obsession config graph roles c f)
    (h' : Obsession config graph roles c f') : f.symbolIds = f'.symbolIds := by
  refine eq_of_ascend id h.symbols_ascend h'.symbols_ascend fun n => ?_
  rw [h.mem_symbolIds, h'.mem_symbolIds]

end Obsession

def Recurrence.finding (r : Recurrence) : Finding :=
  primitiveObsession.finding (r.members.map (·.id))
    (("fields=" ++ commaList r.combination) ::
      r.members.flatMap fun s => r.combination.filterMap (fieldEvidence s))

theorem Recurs.obsession {r : Recurrence} (h : Recurs config graph roles r) :
    Obsession config graph roles r.combination r.finding where
  shown := rfl
  names_ascend := h.ascend
  enough_names := h.large
  symbols_ascend := h.memberIds_ascend
  enough_symbols := by
    have counted : r.finding.symbolIds.length = r.members.length := List.length_map _
    rw [counted]
    exact h.enough
  mem_symbolIds := by
    intro id
    refine List.mem_map.trans ⟨?_, ?_⟩
    · rintro ⟨s, hs, rfl⟩
      obtain ⟨inside, counts, all⟩ := h.mem_members.mp hs
      exact ⟨s, inside, rfl, counts, all⟩
    · rintro ⟨s, inside, rfl, counts, all⟩
      exact ⟨s, h.mem_members.mpr ⟨inside, counts, all⟩, rfl⟩
  mem_combination := by
    intro n
    rw [h.mem_combination]
    refine ⟨fun common s inside hid => ?_, fun common s hs => ?_⟩
    · obtain ⟨t, ht, same⟩ := List.mem_map.mp hid
      obtain rfl := SymbolGraph.eq_of_id_eq (h.mem_members.mp ht).1 inside same
      exact common t ht
    · exact common s (h.mem_members.mp hs).1 (List.mem_map_of_mem hs)
  value_lacks := by
    intro s inside value
    by_contra none_lacks
    push Not at none_lacks
    have part : s ∈ primitiveSymbols config graph :=
      List.mem_filter.mpr ⟨inside, decide_eq_true (takes_part h.ascend h.large none_lacks)⟩
    have lacks := h.spared s part (by simp [isValueObject, RoleMap.hasRole, value])
    rw [hasAllFields_iff.mpr none_lacks] at lacks
    cases lacks

theorem obsessions_perm (config : ScanConfig) (graph : SymbolGraph) (roles : RoleMap) :
    ((detect config graph roles).filter (·.ruleId == primitiveObsession.ruleId)).Perm
      ((recurrences config graph roles).map Recurrence.finding) := by
  refine (filter_detect_perm config graph roles _).trans ?_
  simp only [anemicModel, godClass, primitiveObsession, megaAggregate, crossAggregateReference,
    missingRepository, String.reduceEq, if_true, if_false, List.nil_append, List.append_nil]
  exact (List.mergeSort_perm _ _).map _

/-- Every finding on a recurring combination is on one combination, which its symbols determine and
which determines its symbols, and no two of them have the same symbols or the same combination. -/
theorem obsessions_closed (config : ScanConfig) (graph : SymbolGraph) (roles : RoleMap) :
    (∀ f ∈ detect config graph roles, f.ruleId = "AP-003" →
      ∃! combination, Obsession config graph roles combination f) ∧
    ((detect config graph roles).filter (·.ruleId == "AP-003")).Pairwise fun f f' =>
      f.symbolIds ≠ f'.symbolIds ∧ ∀ combination combination',
        Obsession config graph roles combination f →
        Obsession config graph roles combination' f' → combination ≠ combination' := by
  have perm := obsessions_perm config graph roles
  obtain ⟨recur, distinct⟩ := recurrences_spec config graph roles
  constructor
  · intro f hf rule
    have found : f ∈ (recurrences config graph roles).map Recurrence.finding :=
      perm.mem_iff.mp (List.mem_filter.mpr ⟨hf, beq_iff_eq.mpr rule⟩)
    obtain ⟨r, hr, rfl⟩ := List.mem_map.mp found
    have shows := (recur r hr).obsession
    exact ⟨r.combination, shows, fun c hc => hc.combination_unique shows rfl⟩
  · have apart : ((recurrences config graph roles).map Recurrence.finding).Pairwise
        fun f f' => f.symbolIds ≠ f'.symbolIds :=
      List.pairwise_map.mpr (List.pairwise_map.mp distinct)
    refine ((perm.pairwise_iff fun h => Ne.symm h).mpr apart).imp ?_
    intro f f' different
    refine ⟨different, ?_⟩
    rintro c _ h h' rfl
    exact different (h.symbolIds_unique h')

end AntiPattern

end TacticalDesign
