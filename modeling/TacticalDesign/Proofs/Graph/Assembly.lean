import TacticalDesign.Build
import TacticalDesign.Proofs.Order
/-!
# Assembling a graph

Lists make a graph exactly when no id repeats and every edge stays among the symbols. The edges
that symbols give rise to do stay among them, and of symbols with one id only the first is kept,
so the symbols of any units make a graph.
-/

namespace TacticalDesign

namespace SymbolGraph

variable {g : SymbolGraph} {symbols : List Symbol} {edges : List Relationship}

theorem mem_sortEdges {e : Relationship} : e ∈ sortEdges edges ↔ e ∈ edges := by
  rw [sortEdges, mem_dropRepeats, List.mem_mergeSort]

theorem ofLists_ok (distinct : (symbols.map (·.id)).Nodup)
    (inside : ∀ e ∈ edges, joins (symbols.map (·.id)) e = true) :
    ∃ g, ofLists symbols edges = .ok g ∧
      g.symbols = symbols.mergeSort (fun a b => textLe a.id b.id) ∧
      g.relationships = sortEdges edges := by
  have ascend := ascend_mergeSort Symbol.id distinct
  have inside' : ∀ e ∈ sortEdges edges,
      joins ((symbols.mergeSort fun a b => textLe a.id b.id).map (·.id)) e = true := by
    intro e he
    simpa [joins] using inside e (mem_sortEdges.mp he)
  refine ⟨⟨_, sortEdges edges, ascend, by simpa [joins] using inside'⟩, ?_, rfl, rfl⟩
  simp only [ofLists, dif_pos ascend, dif_pos inside']

theorem pairwise_sortEdges (edges : List Relationship) :
    (sortEdges edges).Pairwise fun a b => textsLe a.key b.key = true :=
  (List.pairwise_mergeSort (fun a b c => textsLe_trans a.key b.key c.key)
    (fun a b => textsLe_total a.key b.key) edges).sublist (dropRepeats_sublist _)

theorem sortEdges_sortEdges (edges : List Relationship) :
    sortEdges (sortEdges edges) = sortEdges edges := by
  rw [sortEdges, List.mergeSort_of_pairwise (pairwise_sortEdges edges), sortEdges,
    dropRepeats_dropRepeats]

def Sorted (g : SymbolGraph) : Prop := sortEdges g.relationships = g.relationships

theorem parts_of_ofLists (h : ofLists symbols edges = .ok g) :
    g.symbols = symbols.mergeSort (fun a b => textLe a.id b.id) ∧
      g.relationships = sortEdges edges := by
  simp only [ofLists] at h
  split at h
  · split at h
    · cases h
      exact ⟨rfl, rfl⟩
    · split at h <;> cases h
  · cases h

theorem sorted_of_ofLists (h : ofLists symbols edges = .ok g) : g.Sorted := by
  rw [Sorted, (parts_of_ofLists h).2, sortEdges_sortEdges]

theorem perm_of_ofLists (h : ofLists symbols edges = .ok g) : g.symbols.Perm symbols := by
  rw [(parts_of_ofLists h).1]
  exact List.mergeSort_perm symbols _

theorem ids_nodup (g : SymbolGraph) : (g.symbols.map (·.id)).Nodup :=
  nodup_of_ascend id (List.pairwise_map.mpr g.symbols_ascend)

theorem ofLists_self (sorted : g.Sorted) : ofLists g.symbols g.relationships = .ok g := by
  have inside : ∀ e ∈ g.relationships, joins (g.symbols.map (·.id)) e = true := by
    intro e he
    simpa [joins] using g.edges_inside e he
  obtain ⟨made, hmade, symbols, edges⟩ := ofLists_ok g.ids_nodup inside
  have ordered : g.symbols.Pairwise fun a b => textLe a.id b.id = true :=
    g.symbols_ascend.imp fun h => textLe_iff.mpr (String.not_lt.mp (String.lt_asymm h))
  rw [List.mergeSort_of_pairwise ordered] at symbols
  rw [hmade]
  obtain ⟨_, _, _, _⟩ := g
  obtain ⟨_, _, _, _⟩ := made
  obtain rfl := symbols
  obtain rfl := edges.trans sorted
  rfl

theorem contains_iff {id : String} : g.contains id = true ↔ id ∈ g.ids := by
  simp [contains, ids]

theorem mem_ids_of_mem {s : Symbol} (h : s ∈ g.symbols) : s.id ∈ g.ids :=
  List.mem_map_of_mem h

theorem find?_id_iff (distinct : (symbols.map (·.id)).Nodup) {id : String} {s : Symbol} :
    symbols.find? (·.id == id) = some s ↔ s ∈ symbols ∧ s.id = id :=
  find?_key_iff Symbol.id distinct

theorem get?_iff {id : String} {s : Symbol} : g.get? id = some s ↔ s ∈ g.symbols ∧ s.id = id :=
  find?_id_iff g.ids_nodup

theorem get?_eq_none_iff {id : String} : g.get? id = none ↔ id ∉ g.ids := by
  simp [get?, ids, List.find?_eq_none]

theorem eq_of_id_eq {s t : Symbol} (hs : s ∈ g.symbols) (ht : t ∈ g.symbols) (e : s.id = t.id) :
    s = t :=
  List.inj_on_of_nodup_map g.ids_nodup hs ht e

/-! ## Keeping the first of each id -/

theorem mem_keepFirst {seen : List String} {s : Symbol} (h : s ∈ keepFirst seen symbols) :
    s ∈ symbols ∧ s.id ∉ seen := by
  induction symbols generalizing seen with
  | nil => simp [keepFirst] at h
  | cons t rest ih =>
      rw [keepFirst] at h
      split at h
      · exact ⟨List.mem_cons_of_mem t (ih h).1, (ih h).2⟩
      · rename_i fresh
        rcases List.mem_cons.mp h with rfl | hm
        · exact ⟨List.mem_cons_self, fresh⟩
        · obtain ⟨hr, hs⟩ := ih hm
          exact ⟨List.mem_cons_of_mem t hr, fun hseen => hs (List.mem_cons_of_mem t.id hseen)⟩

theorem keepFirst_nodup (seen : List String) (symbols : List Symbol) :
    ((keepFirst seen symbols).map (·.id)).Nodup := by
  induction symbols generalizing seen with
  | nil => simp [keepFirst]
  | cons t rest ih =>
      rw [keepFirst]
      split
      · exact ih seen
      · rw [List.map_cons, List.nodup_cons]
        refine ⟨?_, ih (t.id :: seen)⟩
        intro hm
        obtain ⟨s, hs, e⟩ := List.mem_map.mp hm
        exact (mem_keepFirst hs).2 (e ▸ List.mem_cons_self)

theorem find?_keepFirst {seen : List String} {id : String} (fresh : id ∉ seen) :
    (keepFirst seen symbols).find? (·.id == id) = symbols.find? (·.id == id) := by
  induction symbols generalizing seen with
  | nil => rfl
  | cons t rest ih =>
      rw [keepFirst, List.find?_cons]
      by_cases e : t.id = id
      · have hns : t.id ∉ seen := e ▸ fresh
        rw [if_neg hns, List.find?_cons]
        simp [e]
      · have hne : (t.id == id) = false := by simpa using e
        simp only [hne]
        split
        · exact ih fresh
        · rw [List.find?_cons, hne]
          exact ih (by simp [fresh, Ne.symm e])

/-! ## Resolved names stay in the graph -/

theorem mem_of_preferNear {near : Option Symbol} {candidates : List Symbol} {s : Symbol}
    (h : preferNear near candidates = some s) : s ∈ candidates := by
  unfold preferNear at h
  split at h
  · cases h
  · simp_all
  · split at h
    · exact List.mem_of_head? h
    · rcases Option.or_eq_some_iff.mp h with h | ⟨-, h⟩
      · exact List.mem_of_find?_eq_some h
      · rcases Option.or_eq_some_iff.mp h with h | ⟨-, h⟩
        · exact List.mem_of_find?_eq_some h
        · exact List.mem_of_head? h

theorem mem_of_lookupSymbol {name : String} {near : Option Symbol} {s : Symbol}
    (h : g.lookupSymbol name near = some s) : s ∈ g.symbols := by
  rcases Option.or_eq_some_iff.mp h with h | ⟨-, h⟩
  · exact List.mem_of_find?_eq_some h
  · exact List.mem_of_mem_filter (mem_of_preferNear h)

theorem mem_ids_of_lookup {name id : String} {near : Option Symbol}
    (h : g.lookup name near = some id) : id ∈ g.ids := by
  obtain ⟨s, hs, rfl⟩ := Option.map_eq_some_iff.mp h
  exact mem_ids_of_mem (mem_of_lookupSymbol hs)

theorem mem_ids_of_resolveType {s : Symbol} {type : Option String} {id : String}
    (h : id ∈ g.resolveType s type) : id ∈ g.ids := by
  obtain ⟨name, -, hn⟩ := List.mem_filterMap.mp (mem_firstOccurrences.mp h)
  exact mem_ids_of_lookup (Option.filter_eq_some_iff.mp hn).1

/-! ## Derived edges stay in the graph -/

private theorem joins_of_mem_symbolEdges {s : Symbol} {e : Relationship} (hs : s ∈ g.symbols)
    (h : e ∈ g.symbolEdges s) : e.sourceId ∈ g.ids ∧ e.targetId ∈ g.ids := by
  rw [symbolEdges, List.mem_append] at h
  rcases h with h | h
  · obtain ⟨field, -, hf⟩ := List.mem_flatMap.mp h
    unfold fieldEdges at hf
    split at hf
    · rename_i edge hedge
      obtain rfl := List.mem_singleton.mp hf
      obtain ⟨name, -, hn⟩ := Option.bind_eq_some_iff.mp hedge
      obtain ⟨target, ht, rfl⟩ := Option.map_eq_some_iff.mp hn
      exact ⟨mem_ids_of_mem hs, mem_ids_of_mem (List.mem_of_mem_filter (mem_of_preferNear ht))⟩
    · obtain ⟨id, hid, rfl⟩ := List.mem_map.mp hf
      exact ⟨mem_ids_of_mem hs, mem_ids_of_resolveType hid⟩
  · obtain ⟨base, -, hb⟩ := List.mem_filterMap.mp h
    obtain ⟨id, hid, rfl⟩ := Option.map_eq_some_iff.mp hb
    exact ⟨mem_ids_of_mem hs, mem_ids_of_lookup (Option.filter_eq_some_iff.mp hid).1⟩

theorem joins_of_mem_derivedEdges {e : Relationship} (h : e ∈ g.derivedEdges) :
    joins g.ids e = true := by
  obtain ⟨s, hs, he⟩ := List.mem_flatMap.mp h
  simpa [joins] using joins_of_mem_symbolEdges hs he

/-- Any symbols make a graph; of those with one id the first is in it. -/
theorem ofSymbols_ok (symbols : List Symbol) :
    ∃ g, ofSymbols symbols = .ok g ∧
      (∀ id, g.get? id = symbols.find? (·.id == id)) ∧
      g.symbols = (keepFirst [] symbols).mergeSort fun a b => textLe a.id b.id := by
  have distinct := keepFirst_nodup [] symbols
  obtain ⟨arena, harena, hsymbols, -⟩ := @ofLists_ok _ [] distinct (by simp)
  have inside : ∀ e ∈ arena.derivedEdges,
      joins ((keepFirst [] symbols).map (·.id)) e = true := by
    intro e he
    simpa [joins, ids, hsymbols] using joins_of_mem_derivedEdges he
  obtain ⟨g, hg, hs, -⟩ := ofLists_ok distinct inside
  refine ⟨g, by simp only [ofSymbols, harena, hg], ?_, hs⟩
  intro id
  rw [← find?_keepFirst (List.not_mem_nil (a := id))]
  refine Option.ext fun s => ?_
  rw [get?_iff, find?_id_iff distinct, hs, List.mem_mergeSort]

end SymbolGraph

theorem Build.ofHarvest_ok (unitCount : Nat) (h : Harvest) :
    ∃ b, ofHarvest unitCount h = .ok b ∧
      (∀ id, b.graph.get? id = (h.parts.flatMap (·.symbols)).find? (·.id == id)) ∧
      b.processedPaths = h.parts.map (·.path) ∧ b.skipped = h.skipped ∧
      b.unitCount = unitCount ∧ b.complete = h.complete := by
  obtain ⟨g, hg, first, -⟩ := SymbolGraph.ofSymbols_ok (h.parts.flatMap (·.symbols))
  exact ⟨⟨g, h.skipped, h.parts.map (·.path), unitCount, h.complete⟩,
    by simp only [ofHarvest, hg], first, rfl, rfl, rfl, rfl⟩

namespace Build

variable {config : ScanConfig} {units : List SourceUnit} {cancelled : Bool} {b : Build}

theorem overdraws_iff : overdraws config units cancelled = true ↔
    cancelled = false ∧ units ≠ [] ∧ longestWait < config.pollInterval := by
  simp [overdraws, and_assoc]

theorem inOrder_ok (config : ScanConfig) (units : List SourceUnit) (cancelled : Bool) :
    ∃ b, inOrder config units cancelled = .ok b := by
  obtain ⟨b, hb, -⟩ := ofHarvest_ok units.length
    (if cancelled then { complete := units.isEmpty }
    else Harvest.ofUnits config.unitTimeout config.maxWorkers.toNat units)
  exact ⟨b, hb⟩

theorem ofUnits_of_short (short : overdraws config units cancelled = false) :
    ofUnits config units cancelled = inOrder config units cancelled := by
  rw [ofUnits, short, if_neg Bool.false_ne_true]

theorem ofUnits_outcome (config : ScanConfig) (units : List SourceUnit) (cancelled : Bool) :
    Outcome config units cancelled (ofUnits config units cancelled) := by
  unfold ofUnits
  split
  · rename_i long
    exact .overdrawn long
  · rename_i short
    exact .settled fun long => absurd long short

theorem outcome_of_short (short : overdraws config units cancelled = false) :
    Outcome config units cancelled (inOrder config units cancelled) :=
  .settled fun long => by simp [short] at long

theorem Outcome.cases {x : Except BuildError Build} (h : Outcome config units cancelled x) :
    x = inOrder config units cancelled ∨
      overdraws config units cancelled = true ∧ x = .error .waitTooLong := by
  cases h with
  | settled spared => exact Or.inl rfl
  | overdrawn long => exact Or.inr ⟨long, rfl⟩

theorem Outcome.inOrder_eq (h : Outcome config units cancelled (.ok b)) :
    inOrder config units cancelled = .ok b := by
  rcases h.cases with same | ⟨-, contrary⟩
  · exact same.symm
  · cases contrary

theorem gives_of_inOrder (made : inOrder config units cancelled = .ok b) :
    Gives config units cancelled b :=
  fun _ h => h.cases.imp_left (·.trans made)

theorem Gives.ofUnits_eq (gives : Gives config units cancelled b)
    (short : overdraws config units cancelled = false) :
    ofUnits config units cancelled = .ok b := by
  rcases gives _ (ofUnits_outcome config units cancelled) with same | ⟨long, -⟩
  · exact same
  · rw [short] at long
    cases long

end Build

end TacticalDesign
