import Mathlib.Data.Finset.Card
import TacticalDesign.Proofs.AntiPattern.Obsession
/-!
# Which recurring combinations are found

The detector looks at what two symbols share. It keeps every such combination that enough symbols
have and no value object unifies, so where two symbols are enough it misses no common combination.
Where three are needed, a combination that all of them have is missed if any two of them share more.
-/

namespace TacticalDesign

instance (s : Symbol) : DecidablePred s.HasPrimitive := fun name =>
  inferInstanceAs (Decidable (∃ f ∈ s.fields, isPrimitiveType f.declaredType = true ∧
    s.ownsIdentityField f = false ∧ normalizeName f.name = name))

instance (roles : RoleMap) : DecidablePred roles.Counts := fun s =>
  inferInstanceAs (Decidable (∃ role ∈ roles.role? s.id, role ≠ .valueObject))

namespace AntiPattern

variable {config : ScanConfig} {graph : SymbolGraph} {roles : RoleMap} {r r' : Recurrence}
  {found kept : List Recurrence}

/-! ## Every recurrence is kept -/

namespace Recurrence

theorem mem_memberIds_merge {ids : List String} :
    ids ∈ (r.merge kept).map memberIds ↔ ids = r.memberIds ∨ ids ∈ kept.map memberIds := by
  induction kept with
  | nil => simp [merge]
  | cons p rest ih =>
      rw [merge]
      split
      · rename_i same
        have first : (if p.combination.length < r.combination.length then r else p).memberIds =
            p.memberIds := by
          split
          · exact same.symm
          · rfl
        have same' : p.memberIds = r.memberIds := same
        simp only [List.map_cons, List.mem_cons, first, same']
        tauto
      · simp only [List.map_cons, List.mem_cons, ih]
        tauto

theorem mem_memberIds_foldl {ids : List String} :
    ids ∈ (found.foldl (fun kept r => r.merge kept) kept).map memberIds ↔
      ids ∈ found.map memberIds ∨ ids ∈ kept.map memberIds := by
  induction found generalizing kept with
  | nil => simp
  | cons r rest ih =>
      rw [List.foldl_cons, ih, mem_memberIds_merge, List.map_cons, List.mem_cons]
      tauto

end Recurrence

namespace Recurs

theorem eq_of_memberIds (h : Recurs config graph roles r) (h' : Recurs config graph roles r')
    (same : r.memberIds = r'.memberIds) : r = r' := by
  have inside : ∀ {q : Recurrence}, Recurs config graph roles q → ∀ s,
      s ∈ q.members ↔ s ∈ graph.symbols ∧ s.id ∈ q.memberIds := by
    intro q hq s
    constructor
    · exact fun hs => ⟨(hq.mem_members.mp hs).1, List.mem_map_of_mem hs⟩
    · rintro ⟨hs, hid⟩
      obtain ⟨t, ht, e⟩ := List.mem_map.mp hid
      exact SymbolGraph.eq_of_id_eq (hq.mem_members.mp ht).1 hs e ▸ ht
  have members : r.members = r'.members := by
    refine eq_of_ascend Symbol.id (List.pairwise_map.mp h.memberIds_ascend)
      (List.pairwise_map.mp h'.memberIds_ascend) fun s => ?_
    rw [inside h, inside h', same]
  have combination : r.combination = r'.combination := by
    refine eq_of_ascend id h.ascend h'.ascend fun n => ?_
    rw [h.mem_combination, h'.mem_combination, members]
  obtain ⟨_, _⟩ := r
  obtain rfl := members
  obtain rfl := combination
  rfl

end Recurs

theorem mem_recurrences : r ∈ recurrences config graph roles ↔ Recurs config graph roles r := by
  obtain ⟨recur, -⟩ := recurrences_spec config graph roles
  refine ⟨recur r, fun h => ?_⟩
  have listed : r.memberIds ∈ (recurrences config graph roles).map Recurrence.memberIds := by
    refine Recurrence.mem_memberIds_foldl.mpr (Or.inl (List.mem_map_of_mem ?_))
    have combined : r.combination ∈ combinations config (holders config graph roles) := by
      rw [combinations, mem_dropRepeats, List.mem_mergeSort, List.mem_filter, decide_eq_true_eq,
        mem_pairCombinations (ascend_holders config graph roles)]
      exact ⟨h.shared, h.large⟩
    have spared : ((primitiveSymbols config graph).filter (isValueObject roles)).any
        (hasAllFields r.combination) = false := by
      refine List.any_eq_false.mpr fun s hs => ?_
      obtain ⟨part, value⟩ := List.mem_filter.mp hs
      simp [h.spared s part value]
    have fits : (decide (config.obsessionMinSymbols ≤ ((holders config graph roles).filter
        (hasAllFields r.combination)).length) &&
        !((primitiveSymbols config graph).filter (isValueObject roles)).any
          (hasAllFields r.combination)) = true := by
      rw [spared, ← h.members, decide_eq_true h.enough]
      rfl
    refine List.mem_filterMap.mpr ⟨r.combination, combined, ?_⟩
    simp only [fits, if_true]
    rw [← h.members]
  obtain ⟨q, hq, same⟩ := List.mem_map.mp listed
  exact (recur q hq).eq_of_memberIds h same ▸ hq

/-! ## The findings -/

theorem mem_obsessions {f : Finding} :
    f ∈ (detect config graph roles).filter (·.ruleId == "AP-003") ↔
      ∃ r, Recurs config graph roles r ∧ r.finding = f := by
  refine (obsessions_perm config graph roles).mem_iff.trans (List.mem_map.trans ?_)
  simp only [mem_recurrences]

theorem eq_of_symbolIds {f f' : Finding}
    (hf : f ∈ (detect config graph roles).filter (·.ruleId == "AP-003"))
    (hf' : f' ∈ (detect config graph roles).filter (·.ruleId == "AP-003"))
    (same : f.symbolIds = f'.symbolIds) : f = f' := by
  obtain ⟨r, h, rfl⟩ := mem_obsessions.mp hf
  obtain ⟨r', h', rfl⟩ := mem_obsessions.mp hf'
  exact congrArg Recurrence.finding (h.eq_of_memberIds h' same)

theorem nodup_obsessions :
    ((detect config graph roles).filter (·.ruleId == "AP-003")).Nodup := by
  obtain ⟨-, distinct⟩ := recurrences_spec config graph roles
  refine (obsessions_perm config graph roles).nodup_iff.mpr ?_
  refine List.pairwise_map.mpr ((List.pairwise_map.mp distinct).imp ?_)
  exact fun apart e => apart (congrArg Finding.symbolIds e)

/-! ## Limits -/

/-- What recurs whatever the limits are: what two symbols share, with all the symbols that have it,
when no value object does. -/
structure Recurrence.Unbounded (graph : SymbolGraph) (roles : RoleMap) (r : Recurrence) :
    Prop where
  shared : ∃ a ∈ graph.symbols, ∃ b ∈ graph.symbols, a.id < b.id ∧ roles.Counts a ∧
    roles.Counts b ∧ r.combination = sharedNames a b
  ascend : r.members.Pairwise fun a b => a.id < b.id
  mem_members : ∀ s, s ∈ r.members ↔
    s ∈ graph.symbols ∧ roles.Counts s ∧ ∀ n ∈ r.combination, s.HasPrimitive n
  value_lacks : ∀ s ∈ graph.symbols, roles.role? s.id = some .valueObject →
    ∃ n ∈ r.combination, ¬s.HasPrimitive n

/-- The limits only bound how large a combination is and how many symbols have it. -/
theorem recurs_iff : Recurs config graph roles r ↔ r.Unbounded graph roles ∧
    config.obsessionMinFields ≤ r.combination.length ∧
    config.obsessionMinSymbols ≤ r.members.length := by
  constructor
  · intro h
    refine ⟨⟨?_, List.pairwise_map.mp h.memberIds_ascend, fun s => h.mem_members,
      h.obsession.value_lacks⟩, h.large, h.enough⟩
    obtain ⟨a, ha, b, hb, lt, e⟩ := h.shared
    obtain ⟨ina, -, countsa⟩ := mem_holders.mp ha
    obtain ⟨inb, -, countsb⟩ := mem_holders.mp hb
    exact ⟨a, ina, b, inb, lt, countsa, countsb, e⟩
  · rintro ⟨h, large, enough⟩
    obtain ⟨a, ina, b, inb, lt, countsa, countsb, e⟩ := h.shared
    have ascend : r.combination.Pairwise (· < ·) := e ▸ ascend_sharedNames a b
    have holds : ∀ s ∈ graph.symbols, roles.Counts s → (∀ n ∈ r.combination, s.HasPrimitive n) →
        s ∈ holders config graph roles := fun s hs counts all =>
      mem_holders.mpr ⟨hs, takes_part ascend large all, counts⟩
    refine ⟨⟨a, holds a ina countsa fun n hn => ?_, b, holds b inb countsb fun n hn => ?_, lt, e⟩,
      large, ?_, enough, fun s hs value => ?_⟩
    · exact (mem_sharedNames.mp (e ▸ hn)).1
    · exact (mem_sharedNames.mp (e ▸ hn)).2
    · refine eq_of_ascend Symbol.id h.ascend ((ascend_holders config graph roles).filter _)
        fun s => ?_
      rw [h.mem_members, List.mem_filter, hasAllFields_iff]
      constructor
      · exact fun ⟨inside, counts, all⟩ => ⟨holds s inside counts all, all⟩
      · rintro ⟨hs, all⟩
        obtain ⟨inside, -, counts⟩ := mem_holders.mp hs
        exact ⟨inside, counts, all⟩
    · obtain ⟨inside, -⟩ := List.mem_filter.mp hs
      have role : roles.role? s.id = some .valueObject := by
        simpa [isValueObject, RoleMap.hasRole] using value
      obtain ⟨n, hn, lacks⟩ := h.value_lacks s inside role
      rw [← Bool.not_eq_true, hasAllFields_iff]
      exact fun all => lacks (all n hn)

/-! ## Common combinations -/

/-- Names that enough symbols have in common, all of them classified and none as a value object,
while no value object has all of the names. -/
structure Recurring (config : ScanConfig) (graph : SymbolGraph) (roles : RoleMap)
    (names : Finset String) : Prop where
  enough_names : config.obsessionMinFields ≤ names.card
  enough_symbols : ∃ members : List Symbol, members.Nodup ∧
    config.obsessionMinSymbols ≤ members.length ∧
    ∀ s ∈ members, s ∈ graph.symbols ∧ roles.Counts s ∧ ∀ n ∈ names, s.HasPrimitive n
  value_lacks : ∀ s ∈ graph.symbols, roles.role? s.id = some .valueObject →
    ∃ n ∈ names, ¬s.HasPrimitive n

def SharedByTwo (graph : SymbolGraph) (roles : RoleMap) (names : Finset String) : Prop :=
  ∃ a ∈ graph.symbols, ∃ b ∈ graph.symbols, a ≠ b ∧ roles.Counts a ∧ roles.Counts b ∧
    ∀ n, n ∈ names ↔ a.HasPrimitive n ∧ b.HasPrimitive n

variable {names : Finset String}

theorem nodup_sharedNames (a b : Symbol) : (sharedNames a b).Nodup :=
  nodup_of_ascend id (ascend_sharedNames a b)

theorem Recurs.recurring (h : Recurs config graph roles r) :
    Recurring config graph roles r.combination.toFinset ∧
      SharedByTwo graph roles r.combination.toFinset := by
  obtain ⟨unbounded, large, enough⟩ := recurs_iff.mp h
  obtain ⟨a, ha, b, hb, lt, countsa, countsb, e⟩ := unbounded.shared
  have distinct : r.combination.Nodup := e ▸ nodup_sharedNames a b
  constructor
  · refine ⟨?_, ⟨r.members, nodup_of_ascend Symbol.id unbounded.ascend, enough, fun s hs => ?_⟩,
      fun s hs value => ?_⟩
    · rw [List.toFinset_card_of_nodup distinct]
      exact large
    · obtain ⟨inside, counts, all⟩ := (unbounded.mem_members s).mp hs
      exact ⟨inside, counts, fun n hn => all n (List.mem_toFinset.mp hn)⟩
    · obtain ⟨n, hn, lacks⟩ := unbounded.value_lacks s hs value
      exact ⟨n, List.mem_toFinset.mpr hn, lacks⟩
  · refine ⟨a, ha, b, hb, fun same => String.lt_irrefl _ (same ▸ lt), countsa, countsb, fun n => ?_⟩
    rw [List.mem_toFinset, e, mem_sharedNames]

namespace Recurring

theorem recurs_of_lt (h : Recurring config graph roles names) {a b : Symbol}
    (ha : a ∈ graph.symbols) (hb : b ∈ graph.symbols) (lt : a.id < b.id)
    (countsa : roles.Counts a) (countsb : roles.Counts b)
    (shared : ∀ n, n ∈ names ↔ a.HasPrimitive n ∧ b.HasPrimitive n) :
    ∃ r, Recurs config graph roles r := by
  have same : names = (sharedNames a b).toFinset := by
    ext n
    rw [shared, List.mem_toFinset, mem_sharedNames]
  have mem_names : ∀ n, n ∈ names ↔ n ∈ sharedNames a b := fun n =>
    same ▸ List.mem_toFinset
  have large : config.obsessionMinFields ≤ (sharedNames a b).length := by
    rw [← List.toFinset_card_of_nodup (nodup_sharedNames a b), ← same]
    exact h.enough_names
  obtain ⟨members, distinct, enough, common⟩ := h.enough_symbols
  let r : Recurrence := ⟨graph.symbols.filter fun s =>
    roles.Counts s ∧ ∀ n ∈ sharedNames a b, s.HasPrimitive n, sharedNames a b⟩
  have unbounded : r.Unbounded graph roles := by
    refine ⟨⟨a, ha, b, hb, lt, countsa, countsb, rfl⟩, graph.symbols_ascend.filter _, fun s => ?_,
      fun s hs value => ?_⟩
    · rw [List.mem_filter, decide_eq_true_eq]
    · obtain ⟨n, hn, lacks⟩ := h.value_lacks s hs value
      exact ⟨n, (mem_names n).mp hn, lacks⟩
  have fewer : members.length ≤ r.members.length := by
    refine (distinct.subperm fun s hs => ?_).length_le
    obtain ⟨inside, counts, all⟩ := common s hs
    exact (unbounded.mem_members s).mpr ⟨inside, counts, fun n hn => all n ((mem_names n).mpr hn)⟩
  exact ⟨r, recurs_iff.mpr ⟨unbounded, large, enough.trans (Int.ofNat_le.mpr fewer)⟩⟩

theorem recurs (h : Recurring config graph roles names) (two : SharedByTwo graph roles names) :
    ∃ r, Recurs config graph roles r := by
  obtain ⟨a, ha, b, hb, apart, countsa, countsb, shared⟩ := two
  rcases lt_or_lt_of_ne fun e => apart (SymbolGraph.eq_of_id_eq ha hb e) with lt | lt
  · exact h.recurs_of_lt ha hb lt countsa countsb shared
  · exact h.recurs_of_lt hb ha lt countsb countsa fun n => (shared n).trans and_comm

/-- Where two symbols are enough, any two that have the names share a combination of them. -/
theorem exists_sharedByTwo (h : Recurring config graph roles names)
    (two : config.obsessionMinSymbols = 2) :
    ∃ names', Recurring config graph roles names' ∧ SharedByTwo graph roles names' := by
  obtain ⟨members, distinct, enough, common⟩ := h.enough_symbols
  obtain ⟨a, b, rest, rfl⟩ : ∃ a b rest, members = a :: b :: rest := by
    match members, enough with
    | [], enough => simp [two] at enough
    | [_], enough => simp [two] at enough
    | a :: b :: rest, _ => exact ⟨a, b, rest, rfl⟩
  have apart : a ≠ b := fun e => (List.nodup_cons.mp distinct).1 (e ▸ List.mem_cons_self)
  obtain ⟨ina, countsa, alla⟩ := common a List.mem_cons_self
  obtain ⟨inb, countsb, allb⟩ := common b (List.mem_cons_of_mem a List.mem_cons_self)
  have shared : ∀ n, n ∈ (sharedNames a b).toFinset ↔ a.HasPrimitive n ∧ b.HasPrimitive n := by
    intro n
    rw [List.mem_toFinset, mem_sharedNames]
  have more : names ⊆ (sharedNames a b).toFinset := fun n hn =>
    (shared n).mpr ⟨alla n hn, allb n hn⟩
  refine ⟨_, ⟨?_, ⟨[a, b], by simpa using apart, by simp [two], ?_⟩, ?_⟩,
    a, ina, b, inb, apart, countsa, countsb, shared⟩
  · have larger := Finset.card_le_card more
    have large := h.enough_names
    omega
  · intro s hs
    rcases List.mem_pair.mp hs with rfl | rfl
    · exact ⟨ina, countsa, fun n hn => ((shared n).mp hn).1⟩
    · exact ⟨inb, countsb, fun n hn => ((shared n).mp hn).2⟩
  · intro s hs value
    obtain ⟨n, hn, lacks⟩ := h.value_lacks s hs value
    exact ⟨n, more hn, lacks⟩

end Recurring

theorem exists_obsession_iff :
    (∃ f ∈ detect config graph roles, f.ruleId = "AP-003") ↔
      ∃ r, Recurs config graph roles r := by
  constructor
  · rintro ⟨f, hf, rule⟩
    obtain ⟨r, h, -⟩ := mem_obsessions.mp (List.mem_filter.mpr ⟨hf, beq_iff_eq.mpr rule⟩)
    exact ⟨r, h⟩
  · rintro ⟨r, h⟩
    exact ⟨r.finding, (List.mem_filter.mp (mem_obsessions.mpr ⟨r, h, rfl⟩)).1, rfl⟩

/-- There is a finding exactly where symbols have a combination in common, no value object unifies
it, and either two symbols are enough or some two symbols share nothing else. -/
theorem recurring_found (config : ScanConfig) (graph : SymbolGraph) (roles : RoleMap) :
    (∃ f ∈ detect config graph roles, f.ruleId = "AP-003") ↔
      ∃ names, Recurring config graph roles names ∧
        (config.obsessionMinSymbols = 2 ∨ SharedByTwo graph roles names) := by
  rw [exists_obsession_iff]
  constructor
  · rintro ⟨r, h⟩
    exact ⟨_, h.recurring.1, Or.inr h.recurring.2⟩
  · rintro ⟨names, h, two | shared⟩
    · obtain ⟨names', h', shared⟩ := h.exists_sharedByTwo two
      exact h'.recurs shared
    · exact h.recurs shared

/-! ## Three symbols that share more two by two -/

def ledgerClass (name : String) (fields : List String) : Symbol :=
  { id := symbolId "ledger.java" name, name, qualifiedName := name, nameSpace := "",
    kind := .classType, originPath := "ledger.java", language := "java",
    fields := fields.map fun f => { name := f, declaredType := some "int" } }

/-- Three classes with an amount and a currency, any two of which have one more field in common. -/
def ledger : SymbolGraph where
  symbols := [ledgerClass "Invoice" ["amount", "currency", "payee", "number"],
    ledgerClass "Payment" ["amount", "currency", "payee", "due"],
    ledgerClass "Refund" ["amount", "currency", "due", "number"]]
  relationships := []
  symbols_ascend := by decide
  edges_inside := by simp

def ledgerRoles : RoleMap := ledger.symbols.map fun s => (s.id, .domainService)

theorem role?_ledger : ∀ s ∈ ledger.symbols, ledgerRoles.role? s.id = some .domainService := by
  decide +kernel

theorem recurring_ledger (two : config.obsessionMinFields ≤ 2)
    (three : config.obsessionMinSymbols ≤ 3) :
    Recurring config ledger ledgerRoles {"amount", "currency"} where
  enough_names := two
  enough_symbols := by
    refine ⟨ledger.symbols, nodup_of_ascend Symbol.id ledger.symbols_ascend, three, ?_⟩
    have common : ∀ s ∈ ledger.symbols, ∀ n ∈ ({"amount", "currency"} : Finset String),
        s.HasPrimitive n := by
      decide +kernel
    exact fun s hs => ⟨hs, ⟨_, role?_ledger s hs, by decide⟩, common s hs⟩
  value_lacks := by
    intro s hs value
    cases (role?_ledger s hs).symm.trans value

/-- Where three symbols are needed, the amount and the currency of the ledger are not found. -/
theorem pairs_miss_combination :
    ¬∀ (config : ScanConfig) (graph : SymbolGraph) (roles : RoleMap) (names : Finset String),
      config.violation? = none → Recurring config graph roles names →
        ∃ f ∈ detect config graph roles, f.ruleId = "AP-003" := by
  intro claim
  obtain ⟨r, h⟩ := exists_obsession_iff.mp
    (claim { obsessionMinSymbols := 3 } ledger ledgerRoles {"amount", "currency"}
      (by decide +kernel) (recurring_ledger (by decide) (by decide)))
  -- A recurrence has all three classes as members, but any two share what the third one lacks.
  have fewer : ledger.symbols.length ≤ r.members.length := Int.ofNat_le.mp h.enough
  have among : r.members.Subperm ledger.symbols :=
    (nodup_of_ascend Symbol.id (List.pairwise_map.mp h.memberIds_ascend)).subperm
      fun s hs => (h.mem_members.mp hs).1
  have members : ∀ s ∈ ledger.symbols, s ∈ r.members := fun s hs =>
    (among.perm_of_length_le fewer).mem_iff.mpr hs
  have more : ∀ a ∈ ledger.symbols, ∀ b ∈ ledger.symbols, a.id < b.id →
      ∃ n ∈ ["payee", "due", "number"], (a.HasPrimitive n ∧ b.HasPrimitive n) ∧
        ∃ s ∈ ledger.symbols, ¬s.HasPrimitive n := by
    decide +kernel
  obtain ⟨a, ha, b, hb, lt, e⟩ := h.shared
  obtain ⟨n, -, both, s, hs, lacks⟩ := more a (mem_holders.mp ha).1 b (mem_holders.mp hb).1 lt
  exact lacks ((h.mem_combination.mp (e ▸ mem_sharedNames.mpr both)) s (members s hs))

end AntiPattern

end TacticalDesign
