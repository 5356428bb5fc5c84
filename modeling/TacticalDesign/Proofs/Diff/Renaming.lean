import Mathlib.Data.List.Find
import Mathlib.Logic.Equiv.Basic
import TacticalDesign.Proofs.Diff.SameGraph
/-!
# Renamed symbols

Symbols may take new ids, in chains and in swaps too, as long as no two of them take one id. Where
aliases say which id became which, the later graph is recognised: each renamed symbol has one record
that gives its old id and an empty difference.
-/

namespace TacticalDesign

/-- New ids for the symbols of a graph, no two of them alike. A symbol may be called differently
and stand elsewhere as well; its members and its declaration head stay. -/
structure Renaming (g : SymbolGraph) where
  id : String → String
  symbol : Symbol → Symbol
  injective : ∀ a ∈ g.ids, ∀ b ∈ g.ids, id a = id b → a = b
  symbol_id : ∀ s ∈ g.symbols, (symbol s).id = id s.id
  alike : ∀ s ∈ g.symbols, s.Alike (symbol s)

namespace Renaming

variable {g g' : SymbolGraph} (r : Renaming g)

def edge (e : Relationship) : Relationship :=
  { e with sourceId := r.id e.sourceId, targetId := r.id e.targetId }

def classification (c : Classification) : Classification := { c with symbolId := r.id c.symbolId }

def aliases : Aliases := (g.ids.filter fun o => r.id o ≠ o).map fun o => (o, r.id o)

def graph : Except GraphError SymbolGraph :=
  SymbolGraph.ofLists (g.symbols.map r.symbol) (g.relationships.map r.edge)

def record (prior : List Classification) (s : Symbol) : ChangeRecord :=
  { symbolId := r.id s.id
    kind := .modified
    prior := Classification.of? prior s.id
    current := (Classification.of? prior s.id).map r.classification
    diff := some {}
    priorSymbolId := some s.id }

/-! ## The renamed graph -/

structure Gives (g' : SymbolGraph) : Prop where
  symbols : ∀ t, t ∈ g'.symbols ↔ ∃ s ∈ g.symbols, r.symbol s = t
  relationships : ∀ e, e ∈ g'.relationships ↔ ∃ d ∈ g.relationships, r.edge d = e

theorem graph_ok : ∃ g', r.graph = .ok g' ∧ r.Gives g' := by
  have ids : (g.symbols.map r.symbol).map (·.id) = g.ids.map r.id := by
    rw [SymbolGraph.ids, List.map_map, List.map_map]
    exact List.map_congr_left r.symbol_id
  have distinct : ((g.symbols.map r.symbol).map (·.id)).Nodup := by
    rw [ids]
    exact List.Nodup.map_on (fun a ha b hb => r.injective a ha b hb) g.ids_nodup
  have inside : ∀ e ∈ g.relationships.map r.edge,
      SymbolGraph.joins ((g.symbols.map r.symbol).map (·.id)) e = true := by
    intro e he
    obtain ⟨d, hd, rfl⟩ := List.mem_map.mp he
    rw [ids, SymbolGraph.joins, Bool.and_eq_true, decide_eq_true_eq, decide_eq_true_eq]
    exact ⟨List.mem_map_of_mem (g.edges_inside d hd).1, List.mem_map_of_mem (g.edges_inside d hd).2⟩
  obtain ⟨g', made, symbols, relationships⟩ := SymbolGraph.ofLists_ok distinct inside
  refine ⟨g', made, ?_, ?_⟩
  · intro t
    rw [symbols, List.mem_mergeSort, List.mem_map]
  · intro e
    rw [relationships, SymbolGraph.mem_sortEdges, List.mem_map]

variable {r}

theorem mem_ids (gives : r.Gives g') {o : String} (ho : o ∈ g.ids) : r.id o ∈ g'.ids := by
  obtain ⟨s, hs, rfl⟩ := List.mem_map.mp ho
  rw [← r.symbol_id s hs]
  exact SymbolGraph.mem_ids_of_mem ((gives.symbols _).mpr ⟨s, hs, rfl⟩)

/-! ## Aliases and classifications -/

theorem target_aliases {o : String} (ho : o ∈ g.ids) : r.aliases.target o = r.id o := by
  unfold Aliases.target
  cases found : r.aliases.find? (·.1 == o) with
  | some p =>
      obtain ⟨o', -, rfl⟩ := List.mem_map.mp (List.mem_of_find?_eq_some found)
      have same : o' = o := by simpa using List.find?_some found
      rw [same]
      rfl
  | none =>
      -- Only an id that stays has no alias.
      by_contra changed
      have listed : (o, r.id o) ∈ r.aliases :=
        List.mem_map_of_mem (List.mem_filter.mpr ⟨ho, by simpa using Ne.symm changed⟩)
      simpa using List.find?_eq_none.mp found _ listed

theorem aliases_fit (gives : r.Gives g') : ¬r.aliases.Misfit g g' := by
  have known : ∀ p ∈ r.aliases, p.1 ∈ g.ids ∧ p.2 = r.id p.1 := by
    intro p hp
    obtain ⟨o, ho, rfl⟩ := List.mem_map.mp hp
    exact ⟨List.mem_of_mem_filter ho, rfl⟩
  rintro (⟨p, hp, outside⟩ | ⟨p, hp, outside⟩ | ⟨o, ho, o', ho', apart, same, -⟩)
  · exact outside (known p hp).1
  · apply outside
    rw [(known p hp).2]
    exact mem_ids gives (known p hp).1
  · rw [target_aliases ho, target_aliases ho'] at same
    exact apart (r.injective o ho o' ho' same)

theorem of?_map_classification {items : List Classification}
    (inside : ∀ c ∈ items, c.symbolId ∈ g.ids) {o : String} (ho : o ∈ g.ids) :
    Classification.of? (items.map r.classification) (r.id o) =
      (Classification.of? items o).map r.classification := by
  rw [Classification.of?, Classification.of?, ← List.map_reverse, List.find?_map]
  congr 1
  apply List.find?_congr
  intro c hc
  have hid := inside c (List.mem_reverse.mp hc)
  apply Bool.eq_iff_iff.mpr
  simp only [Function.comp_apply, beq_iff_eq]
  exact ⟨r.injective _ hid o ho, congrArg r.id⟩

/-! ## The comparison -/

section Compared

variable (skippedPaths : List String) {prior : List Classification} {s : Symbol}

def comparison (r : Renaming g) (g' : SymbolGraph) (skippedPaths : List String) : Comparison :=
  ⟨g, g', r.aliases, skippedPaths⟩

theorem target_comparison (hs : s ∈ g.symbols) :
    (r.comparison g' skippedPaths).target s.id = (r.symbol s).id := by
  rw [r.symbol_id s hs]
  exact target_aliases (SymbolGraph.mem_ids_of_mem hs)

theorem isUnverified_comparison (gives : r.Gives g') (hs : s ∈ g.symbols) :
    (r.comparison g' skippedPaths).isUnverified s = false := by
  rw [← Bool.not_eq_true, Comparison.isUnverified_iff, target_comparison skippedPaths hs,
    r.symbol_id s hs]
  exact fun h => h.2 (mem_ids gives (SymbolGraph.mem_ids_of_mem hs))

theorem unverified_comparison (gives : r.Gives g') :
    (r.comparison g' skippedPaths).unverified = [] := by
  unfold Comparison.unverified
  rw [List.map_eq_nil_iff, List.filter_eq_nil_iff]
  intro s hs
  rw [isUnverified_comparison skippedPaths gives hs]
  exact Bool.false_ne_true

theorem mem_facts_iff (gives : r.Gives g') (hs : s ∈ g.symbols) {fact : EdgeFact} :
    fact ∈ (r.comparison g' skippedPaths).oldFacts s.id ↔
      fact ∈ (r.comparison g' skippedPaths).newFacts (r.symbol s).id := by
  have led : ∀ e ∈ g.relationships,
      (r.comparison g' skippedPaths).target e.targetId = r.id e.targetId :=
    fun e he => target_aliases (g.edges_inside e he).2
  rw [Comparison.mem_oldFacts, Comparison.mem_newFacts, unverified_comparison skippedPaths gives,
    r.symbol_id s hs]
  constructor
  · rintro ⟨e, he, -, source, rfl⟩
    refine ⟨r.edge e, (gives.relationships _).mpr ⟨e, he, rfl⟩, congrArg r.id source, ?_⟩
    rw [led e he]
    rfl
  · rintro ⟨_, hd, source, rfl⟩
    obtain ⟨e, he, rfl⟩ := (gives.relationships _).mp hd
    refine ⟨e, he, List.not_mem_nil, ?_, ?_⟩
    · exact r.injective _ (g.edges_inside e he).1 _ (SymbolGraph.mem_ids_of_mem hs) source
    · rw [led e he]
      rfl

theorem mem_edges_iff (gives : r.Gives g') (hs : s ∈ g.symbols) (text : String) :
    text ∈ (r.comparison g' skippedPaths).oldEdges s.id ↔
      text ∈ (r.comparison g' skippedPaths).newEdges (r.symbol s).id := by
  rw [Comparison.oldEdges_eq, Comparison.newEdges_eq, List.mem_map, List.mem_map]
  simp only [mem_facts_iff skippedPaths gives hs]

theorem diffOf_comparison (gives : r.Gives g') (inside : ∀ c ∈ prior, c.symbolId ∈ g.ids)
    (hs : s ∈ g.symbols) :
    ((r.comparison g' skippedPaths).diffOf prior (prior.map r.classification) s
      (r.symbol s)).isEmpty = true := by
  apply StructuralDiff.isEmpty_of_alike (r.alike s hs) (mem_edges_iff skippedPaths gives hs)
  show _ = (Classification.of? (prior.map r.classification) (r.symbol s).id).map _
  rw [r.symbol_id s hs, of?_map_classification inside (SymbolGraph.mem_ids_of_mem hs),
    Option.map_map]
  rfl

theorem recordOf_comparison (gives : r.Gives g') (inside : ∀ c ∈ prior, c.symbolId ∈ g.ids)
    (hs : s ∈ g.symbols) :
    (r.comparison g' skippedPaths).recordOf prior (prior.map r.classification) s =
      if r.id s.id = s.id then none else some (r.record prior s) := by
  have ht : r.symbol s ∈ (r.comparison g' skippedPaths).new.symbols :=
    (gives.symbols _).mpr ⟨s, hs, rfl⟩
  have empty := diffOf_comparison skippedPaths gives inside hs
  rw [Comparison.recordOf_of_match ht (target_comparison skippedPaths hs), empty,
    StructuralDiff.eq_empty_of_isEmpty empty, r.symbol_id s hs,
    of?_map_classification inside (SymbolGraph.mem_ids_of_mem hs)]
  by_cases stays : r.id s.id = s.id
  · simp [stays]
  · simp [stays, record]

theorem addedRecords_comparison (gives : r.Gives g') (current : List Classification) :
    (r.comparison g' skippedPaths).addedRecords current = [] := by
  apply List.eq_nil_iff_forall_not_mem.mpr
  intro record added
  obtain ⟨t, ht, unmatched, -⟩ := Comparison.mem_addedRecords.mp added
  obtain ⟨s, hs, rfl⟩ := (gives.symbols t).mp ht
  apply unmatched
  rw [← target_comparison skippedPaths hs]
  exact Comparison.target_mem_matchedIds hs

theorem unordered_comparison (gives : r.Gives g') (inside : ∀ c ∈ prior, c.symbolId ∈ g.ids) :
    (r.comparison g' skippedPaths).unordered prior (prior.map r.classification) =
      (g.symbols.filter fun s => r.id s.id ≠ s.id).map (r.record prior) := by
  have verified : (g.symbols.filter fun s => !(r.comparison g' skippedPaths).isUnverified s) =
      g.symbols := by
    apply List.filter_eq_self.mpr
    intro s hs
    rw [isUnverified_comparison skippedPaths gives hs]
    rfl
  calc
    (r.comparison g' skippedPaths).unordered prior (prior.map r.classification)
      = g.symbols.filterMap
          ((r.comparison g' skippedPaths).recordOf prior (prior.map r.classification)) := by
        rw [Comparison.unordered, addedRecords_comparison skippedPaths gives, List.append_nil]
        exact congrArg (List.filterMap _) verified
    _ = g.symbols.filterMap
          (fun s => if r.id s.id = s.id then none else some (r.record prior s)) :=
        List.filterMap_congr fun s hs => recordOf_comparison skippedPaths gives inside hs
    _ = (g.symbols.filter fun s => r.id s.id ≠ s.id).map (r.record prior) := by
        rw [← List.filterMap_eq_map, List.filterMap_filter]
        apply List.filterMap_congr
        intro s _
        by_cases stays : r.id s.id = s.id <;> simp [stays]

end Compared

def ofPerm (g : SymbolGraph) (id : Equiv.Perm String) : Renaming g where
  id := id
  symbol s := { s with id := id s.id }
  injective _ _ _ _ same := id.injective same
  symbol_id _ _ := rfl
  alike _ _ := ⟨rfl, rfl, rfl, rfl, rfl, rfl⟩

end Renaming

namespace Baseline

/-- A baseline against its graph under new ids, with aliases for the ids that changed: each renamed
symbol has a record with its old id and an empty difference, and there are no other records. -/
theorem changes_of_renaming (b : Baseline) (r : Renaming b.graph)
    (readable : HasCurrentMajor b.schemaVersion)
    (classified : (b.classifications.map (·.symbolId)).Perm b.graph.ids)
    (skippedPaths : List String) :
    ∃ graph records, r.graph = .ok graph ∧
      b.changes graph (b.classifications.map r.classification) r.aliases skippedPaths =
        .ok records ∧
      records.Perm ((b.graph.symbols.filter fun s => r.id s.id ≠ s.id).map
        (r.record b.classifications)) := by
  obtain ⟨graph, made, gives⟩ := r.graph_ok
  have inside : ∀ c ∈ b.classifications, c.symbolId ∈ b.graph.ids :=
    fun c hc => classified.mem_iff.mp (List.mem_map_of_mem hc)
  refine ⟨graph, _, made, (changes_of_fit readable (Renaming.aliases_fit gives) _ _).1, ?_⟩
  rw [← Renaming.unordered_comparison skippedPaths gives inside]
  exact List.mergeSort_perm _ _

def linkedPair : Baseline :=
  { ofLinked .composition "part" with
    classifications := [verdictOfA, { verdictOfA with symbolId := "a.java::T" }] }

def swappedPair : Renaming linkedPair.graph := .ofPerm _ (Equiv.swap "a.java::A" "a.java::T")

theorem changes_of_renaming_swap :
    ∃ graph records, swappedPair.graph = .ok graph ∧
      linkedPair.changes graph (linkedPair.classifications.map swappedPair.classification)
        swappedPair.aliases [] = .ok records ∧
      (records.map fun r => (r.symbolId, r.priorSymbolId, r.diff)).Perm
        [("a.java::T", some "a.java::A", some {}), ("a.java::A", some "a.java::T", some {})] := by
  obtain ⟨graph, records, made, compared, listed⟩ :=
    changes_of_renaming linkedPair swappedPair readable_one (List.Perm.refl _) []
  refine ⟨graph, records, made, compared, (listed.map _).trans ?_⟩
  decide

end Baseline

end TacticalDesign
