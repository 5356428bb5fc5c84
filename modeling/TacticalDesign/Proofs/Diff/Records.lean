import TacticalDesign.Proofs.Diff.Matching
/-!
# What change records say

A comparison accounts for every symbol of both graphs. A baseline symbol without a match is listed
as unverified or has one removal record, a current symbol that no baseline symbol stands for has
one addition record, and no two records are about one symbol.
-/

namespace TacticalDesign

namespace ChangeRecord

/-! ## The order of records -/

/-- Records go by their symbols, and those of one symbol by the ranks of their kinds. -/
theorem precedes_eq :
    precedes = byText (·.symbolId) fun a b => decide (a.kind.rank ≤ b.kind.rank) := rfl

theorem precedes_trans (a b c : ChangeRecord) : a.precedes b = true → b.precedes c = true →
    a.precedes c = true := by
  rw [precedes_eq]
  refine byText_trans (fun a b c hab hbc => ?_) a b c
  rw [decide_eq_true_eq] at *
  exact Nat.le_trans hab hbc

theorem precedes_total (a b : ChangeRecord) : (a.precedes b || b.precedes a) = true := by
  rw [precedes_eq]
  refine byText_total (fun a b => ?_) a b
  rw [Bool.or_eq_true, decide_eq_true_eq, decide_eq_true_eq]
  exact Nat.le_total _ _

theorem ascend_of_distinct {records : List ChangeRecord}
    (distinct : (records.map (·.symbolId)).Nodup) :
    (records.mergeSort precedes).Pairwise fun a b => a.symbolId < b.symbolId := by
  have sorted := List.pairwise_mergeSort precedes_trans precedes_total records
  have nodup : ((records.mergeSort precedes).map (·.symbolId)).Nodup :=
    ((List.mergeSort_perm records precedes).map _).nodup_iff.mpr distinct
  refine (sorted.and (List.pairwise_map.mp nodup)).imp ?_
  intro a b h
  rw [precedes_eq] at h
  exact (byText_iff.mp h.1).resolve_right fun e => h.2 e.1

end ChangeRecord

namespace Comparison

variable {c : Comparison} {prior current : List Classification}

def removal (prior : List Classification) (o : Symbol) : ChangeRecord :=
  { symbolId := o.id, kind := .removed, prior := Classification.of? prior o.id }

def addition (current : List Classification) (t : Symbol) : ChangeRecord :=
  { symbolId := t.id, kind := .added, current := Classification.of? current t.id }

/-! ## One record for one symbol -/

theorem recordOf_of_unmatched {s : Symbol} (unmatched : c.target s.id ∉ c.new.ids) :
    c.recordOf prior current s = some (removal prior s) := by
  simp only [recordOf, SymbolGraph.get?_eq_none_iff.mpr unmatched]
  rfl

theorem recordOf_of_matched {s : Symbol} {r : ChangeRecord} (matched : c.target s.id ∈ c.new.ids)
    (h : c.recordOf prior current s = some r) :
    r.kind = .modified ∧ r.symbolId = c.target s.id := by
  obtain ⟨t, ht, e⟩ := List.mem_map.mp matched
  simp only [recordOf, SymbolGraph.get?_iff.mpr ⟨ht, e⟩] at h
  split at h
  · cases h
  · cases h
    exact ⟨rfl, rfl⟩

theorem symbolId_of_recordOf (fit : ¬c.aliases.Misfit c.old c.new) {s : Symbol} {r : ChangeRecord}
    (h : c.recordOf prior current s = some r) : r.symbolId = c.target s.id := by
  by_cases matched : c.target s.id ∈ c.new.ids
  · exact (recordOf_of_matched matched h).2
  · rw [recordOf_of_unmatched matched] at h
    cases h
    exact (Aliases.target_eq_self fit matched).symm

def unordered (c : Comparison) (prior current : List Classification) : List ChangeRecord :=
  (c.old.symbols.filter fun s => !c.isUnverified s).filterMap (c.recordOf prior current) ++
    c.addedRecords current

theorem mem_records {r : ChangeRecord} :
    r ∈ c.records prior current ↔ r ∈ c.unordered prior current :=
  List.mem_mergeSort

theorem mem_unordered {r : ChangeRecord} :
    r ∈ c.unordered prior current ↔
      (∃ s ∈ c.old.symbols, c.isUnverified s = false ∧ c.recordOf prior current s = some r) ∨
        r ∈ c.addedRecords current := by
  simp [unordered, List.mem_filterMap, and_assoc]

theorem mem_addedRecords {r : ChangeRecord} :
    r ∈ c.addedRecords current ↔
      ∃ t ∈ c.new.symbols, t.id ∉ c.matchedIds ∧ addition current t = r := by
  simp only [addedRecords, List.mem_map, List.mem_filter, Bool.not_eq_true',
    decide_eq_false_iff_not, and_assoc]
  rfl

theorem target_mem_matchedIds {s : Symbol} (hs : s ∈ c.old.symbols) :
    c.target s.id ∈ c.matchedIds :=
  List.mem_map_of_mem (SymbolGraph.mem_ids_of_mem hs)

private theorem distinct_addedRecords : ((c.addedRecords current).map (·.symbolId)).Nodup := by
  rw [addedRecords, List.map_map]
  exact c.new.ids_nodup.sublist (List.filter_sublist.map _)

private theorem distinct_recordOf (fit : ¬c.aliases.Misfit c.old c.new) :
    (((c.old.symbols.filter fun s => !c.isUnverified s).filterMap
      (c.recordOf prior current)).map (·.symbolId)).Nodup := by
  -- Records go by targets, and where aliases fit targets differ as ids do.
  rw [List.Nodup, List.pairwise_map, List.pairwise_filterMap]
  refine (c.old.symbols_ascend.sublist List.filter_sublist).imp_of_mem ?_
  intro s s' hs hs' ascend r hr r' hr' e
  rw [symbolId_of_recordOf fit hr, symbolId_of_recordOf fit hr'] at e
  have same := Aliases.target_injective fit
    (SymbolGraph.mem_ids_of_mem (List.mem_of_mem_filter hs))
    (SymbolGraph.mem_ids_of_mem (List.mem_of_mem_filter hs')) e
  exact String.ne_of_lt ascend same

theorem distinct_unordered (fit : ¬c.aliases.Misfit c.old c.new) :
    ((c.unordered prior current).map (·.symbolId)).Nodup := by
  rw [unordered, List.map_append]
  refine List.nodup_append.mpr ⟨distinct_recordOf fit, distinct_addedRecords, ?_⟩
  intro id hrec id' hadded e
  obtain ⟨r, hr, rfl⟩ := List.mem_map.mp hrec
  obtain ⟨s, hs, hsr⟩ := List.mem_filterMap.mp hr
  obtain ⟨r', hr', rfl⟩ := List.mem_map.mp hadded
  obtain ⟨t, -, unmatched, rfl⟩ := mem_addedRecords.mp hr'
  rw [symbolId_of_recordOf fit hsr] at e
  change c.target s.id = t.id at e
  exact unmatched (e ▸ target_mem_matchedIds (List.mem_of_mem_filter hs))

theorem distinct_records (fit : ¬c.aliases.Misfit c.old c.new) :
    ((c.records prior current).map (·.symbolId)).Nodup :=
  ((List.mergeSort_perm _ _).map _).nodup_iff.mpr (distinct_unordered fit)

/-! ## Every symbol is accounted for -/

theorem isUnverified_iff {o : Symbol} :
    c.isUnverified o = true ↔ o.originPath ∈ c.skippedPaths ∧ c.target o.id ∉ c.new.ids := by
  simp [isUnverified, ← SymbolGraph.contains_iff]

theorem mem_unverified {o : Symbol} (ho : o ∈ c.old.symbols) :
    o.id ∈ c.unverified ↔ o.originPath ∈ c.skippedPaths ∧ c.target o.id ∉ c.new.ids := by
  rw [← isUnverified_iff, unverified, List.mem_map]
  constructor
  · rintro ⟨s, hs, e⟩
    obtain ⟨hs, hu⟩ := List.mem_filter.mp hs
    exact SymbolGraph.eq_of_id_eq hs ho e ▸ hu
  · exact fun hu => ⟨o, List.mem_filter.mpr ⟨ho, hu⟩, rfl⟩

theorem record_of_unmatched (fit : ¬c.aliases.Misfit c.old c.new) {o : Symbol}
    (ho : o ∈ c.old.symbols) (unmatched : c.target o.id ∉ c.new.ids) {r : ChangeRecord}
    (hr : r ∈ c.records prior current) (about : r.symbolId = o.id) :
    c.isUnverified o = false ∧ r = removal prior o := by
  have self : c.target o.id = o.id := Aliases.target_eq_self fit unmatched
  rcases mem_unordered.mp (mem_records.mp hr) with ⟨s, hs, hv, hsr⟩ | hadded
  · have e : c.target s.id = c.target o.id := by
      rw [← symbolId_of_recordOf fit hsr, about, self]
    have same := SymbolGraph.eq_of_id_eq hs ho (Aliases.target_injective fit
      (SymbolGraph.mem_ids_of_mem hs) (SymbolGraph.mem_ids_of_mem ho) e)
    subst same
    rw [recordOf_of_unmatched unmatched] at hsr
    exact ⟨hv, (Option.some.inj hsr).symm⟩
  · obtain ⟨t, ht, -, rfl⟩ := mem_addedRecords.mp hadded
    have e : t.id = c.target o.id := about.trans self.symm
    exact absurd (e ▸ SymbolGraph.mem_ids_of_mem ht) unmatched

theorem origin_of_mem {r : ChangeRecord} (hr : r ∈ c.records prior current) :
    (∃ o ∈ c.old.symbols, c.target o.id ∉ c.new.ids ∧ o.originPath ∉ c.skippedPaths ∧
        r = removal prior o) ∨
      (∃ t ∈ c.new.symbols, t.id ∉ c.matchedIds ∧ r = addition current t) ∨
        (r.kind = .modified ∧ r.symbolId ∈ c.matchedIds ∧ r.symbolId ∈ c.new.ids) := by
  rcases mem_unordered.mp (mem_records.mp hr) with ⟨s, hs, hv, hsr⟩ | hadded
  · by_cases matched : c.target s.id ∈ c.new.ids
    · obtain ⟨kind, about⟩ := recordOf_of_matched matched hsr
      exact Or.inr (Or.inr ⟨kind, about ▸ target_mem_matchedIds hs, about ▸ matched⟩)
    · rw [recordOf_of_unmatched matched] at hsr
      rw [← Bool.not_eq_true, isUnverified_iff] at hv
      exact Or.inl ⟨s, hs, matched, fun skipped => hv ⟨skipped, matched⟩,
        (Option.some.inj hsr).symm⟩
  · obtain ⟨t, ht, unmatched, e⟩ := mem_addedRecords.mp hadded
    exact Or.inr (Or.inl ⟨t, ht, unmatched, e.symm⟩)

/-- What the records of a comparison say about the symbols of both graphs. -/
structure Conserved (c : Comparison) (prior current : List Classification)
    (records : List ChangeRecord) : Prop where
  ascend : records.Pairwise fun a b => a.symbolId < b.symbolId
  unverified : ∀ o ∈ c.old.symbols, c.target o.id ∉ c.new.ids → o.originPath ∈ c.skippedPaths →
    o.id ∈ c.unverified ∧ ∀ r ∈ records, r.symbolId ≠ o.id
  removed : ∀ o ∈ c.old.symbols, c.target o.id ∉ c.new.ids → o.originPath ∉ c.skippedPaths →
    o.id ∉ c.unverified ∧ records.filter (fun r => r.symbolId = o.id) = [removal prior o]
  added : ∀ t ∈ c.new.symbols, t.id ∉ c.matchedIds →
    records.filter (fun r => r.symbolId = t.id) = [addition current t]
  modified : ∀ r ∈ records, r.kind = .modified → r.symbolId ∈ c.matchedIds ∧ r.symbolId ∈ c.new.ids
  removed_only : ∀ r ∈ records, r.kind = .removed →
    ∃ o ∈ c.old.symbols, c.target o.id ∉ c.new.ids ∧ o.originPath ∉ c.skippedPaths ∧
      r = removal prior o
  added_only : ∀ r ∈ records, r.kind = .added →
    ∃ t ∈ c.new.symbols, t.id ∉ c.matchedIds ∧ r = addition current t

theorem conserved_records (fit : ¬c.aliases.Misfit c.old c.new) :
    c.Conserved prior current (c.records prior current) where
  ascend := ChangeRecord.ascend_of_distinct (distinct_unordered fit)
  unverified := by
    intro o ho unmatched skipped
    refine ⟨(mem_unverified ho).mpr ⟨skipped, unmatched⟩, ?_⟩
    intro r hr about
    have hv := (record_of_unmatched fit ho unmatched hr about).1
    rw [isUnverified_iff.mpr ⟨skipped, unmatched⟩] at hv
    cases hv
  removed := by
    intro o ho unmatched unskipped
    refine ⟨fun hu => unskipped ((mem_unverified ho).mp hu).1, ?_⟩
    have hv : c.isUnverified o = false := by
      rw [← Bool.not_eq_true, isUnverified_iff]
      exact fun h => unskipped h.1
    have hmem : removal prior o ∈ c.records prior current :=
      mem_records.mpr (mem_unordered.mpr (Or.inl ⟨o, ho, hv, recordOf_of_unmatched unmatched⟩))
    exact filter_key_eq_singleton (·.symbolId) (distinct_records fit) hmem
  added := by
    intro t ht unmatched
    have hmem : addition current t ∈ c.records prior current :=
      mem_records.mpr (mem_unordered.mpr (Or.inr (mem_addedRecords.mpr ⟨t, ht, unmatched, rfl⟩)))
    exact filter_key_eq_singleton (·.symbolId) (distinct_records fit) hmem
  modified := by
    intro r hr kind
    rcases origin_of_mem hr with ⟨o, -, -, -, rfl⟩ | ⟨t, -, -, rfl⟩ | ⟨-, about, matched⟩
    · cases kind
    · cases kind
    · exact ⟨about, matched⟩
  removed_only := by
    intro r hr kind
    rcases origin_of_mem hr with ⟨o, ho, unmatched, unskipped, e⟩ | ⟨t, -, -, rfl⟩ | ⟨hk, -, -⟩
    · exact ⟨o, ho, unmatched, unskipped, e⟩
    · cases kind
    · rw [hk] at kind
      cases kind
  added_only := by
    intro r hr kind
    rcases origin_of_mem hr with ⟨o, -, -, -, rfl⟩ | ⟨t, ht, unmatched, e⟩ | ⟨hk, -, -⟩
    · cases kind
    · exact ⟨t, ht, unmatched, e⟩
    · rw [hk] at kind
      cases kind

end Comparison

/-! ## Comparing a baseline -/

namespace Baseline

theorem changes_of_fit {b : Baseline} {graph : SymbolGraph} {aliases : Aliases}
    (readable : HasCurrentMajor b.schemaVersion) (fit : ¬aliases.Misfit b.graph graph)
    (current : List Classification) (skippedPaths : List String) :
    b.changes graph current aliases skippedPaths =
        .ok (Comparison.records ⟨b.graph, graph, aliases, skippedPaths⟩ b.classifications current) ∧
      b.unverified graph aliases skippedPaths =
        .ok (Comparison.unverified ⟨b.graph, graph, aliases, skippedPaths⟩) := by
  have schema := checkSchema_ok_iff.mpr readable
  have check := Aliases.check_ok_iff.mpr fit
  constructor
  · simp only [changes, comparison, schema, check]
  · simp only [unverified, comparison, check]

/-- A baseline is refused for its schema tag first, then for aliases that do not fit; otherwise it
is compared, and the records account for every symbol of both graphs. -/
theorem changes_conserve (b : Baseline) (graph : SymbolGraph) (current : List Classification)
    (aliases : Aliases) (skippedPaths : List String) :
    ((∃ m, b.changes graph current aliases skippedPaths = .error (.schema m)) ↔
        ¬HasCurrentMajor b.schemaVersion) ∧
      ((∃ e, b.changes graph current aliases skippedPaths = .error (.aliasing e)) ↔
        HasCurrentMajor b.schemaVersion ∧ aliases.Misfit b.graph graph) ∧
      (HasCurrentMajor b.schemaVersion ∧ ¬aliases.Misfit b.graph graph →
        ∃ records, b.changes graph current aliases skippedPaths = .ok records ∧
          b.unverified graph aliases skippedPaths =
            .ok (Comparison.unverified ⟨b.graph, graph, aliases, skippedPaths⟩) ∧
          Comparison.Conserved ⟨b.graph, graph, aliases, skippedPaths⟩ b.classifications current
            records) := by
  cases hschema : checkSchema b.schemaVersion with
  | error m =>
      have unreadable : ¬HasCurrentMajor b.schemaVersion := by
        rw [← checkSchema_ok_iff, hschema]
        simp
      have refused : b.changes graph current aliases skippedPaths = .error (.schema m) := by
        simp only [changes, hschema]
      simp [refused, unreadable]
  | ok _ =>
      have readable : HasCurrentMajor b.schemaVersion := checkSchema_ok_iff.mp hschema
      cases hcheck : aliases.check b.graph graph with
      | error e =>
          have misfit : aliases.Misfit b.graph graph := by
            by_contra fit
            rw [Aliases.check_ok_iff.mpr fit] at hcheck
            cases hcheck
          have refused : b.changes graph current aliases skippedPaths = .error (.aliasing e) := by
            simp only [changes, comparison, hschema, hcheck]
          simp [refused, readable, misfit]
      | ok _ =>
          have fit : ¬aliases.Misfit b.graph graph := Aliases.check_ok_iff.mp hcheck
          have compared : b.changes graph current aliases skippedPaths =
              .ok (Comparison.records ⟨b.graph, graph, aliases, skippedPaths⟩ b.classifications
                current) := by
            simp only [changes, comparison, hschema, hcheck]
          have looked : b.unverified graph aliases skippedPaths =
              .ok (Comparison.unverified ⟨b.graph, graph, aliases, skippedPaths⟩) := by
            simp only [unverified, comparison, hcheck]
          refine ⟨by simp [compared, readable], by simp [compared, fit], fun _ => ?_⟩
          exact ⟨_, compared, looked, Comparison.conserved_records fit⟩

end Baseline

end TacticalDesign
