import TacticalDesign.Proofs.Baseline.RoundTrip
import TacticalDesign.Proofs.Baseline.Words
import TacticalDesign.Proofs.Scan.Extraction
import TacticalDesign.Proofs.Scan.Summary
/-!
# Reports make baselines that are read back

The graph of a build has its edges in order and keeps the words of the declarations; the derived
edges and the classifications speak in words that the vocabularies know. So the baseline that a
report makes is read back from its document.
-/

namespace TacticalDesign

/-! ## Graphs of builds -/

theorem SourceUnit.canonical_symbols {u : SourceUnit} (canonical : u.extraction.Canonical)
    {s : Symbol} (hs : s ∈ u.symbols) : s.Canonical := by
  obtain ⟨ds, declared, d, hd, rfl⟩ := exists_declaration hs
  have words := canonical ds declared d hd
  exact ⟨words.kind, words.methods⟩

namespace SymbolGraph

variable {g : SymbolGraph}

theorem sorted_of_ofSymbols {symbols : List Symbol} (h : ofSymbols symbols = .ok g) :
    g.Sorted := by
  simp only [ofSymbols] at h
  split at h
  · cases h
  · exact sorted_of_ofLists h

theorem canonical_cardinality (type : Option String) :
    Cardinality.ofWord (TypeReference.of type).cardinality.word =
      (TypeReference.of type).cardinality := by
  cases type with
  | none => rfl
  | some text =>
      simp only [TypeReference.of, TypeReference.ofText]
      split <;> rfl

theorem canonical_derivedEdges {e : Relationship} (h : e ∈ g.derivedEdges) : e.Canonical := by
  obtain ⟨s, -, h⟩ := List.mem_flatMap.mp h
  rcases List.mem_append.mp h with h | h
  · obtain ⟨field, -, hf⟩ := List.mem_flatMap.mp h
    unfold fieldEdges at hf
    split at hf
    · rename_i edge hedge
      obtain rfl := List.mem_singleton.mp hf
      obtain ⟨name, -, hn⟩ := Option.bind_eq_some_iff.mp hedge
      obtain ⟨target, -, rfl⟩ := Option.map_eq_some_iff.mp hn
      exact ⟨rfl, canonical_cardinality _⟩
    · obtain ⟨id, -, rfl⟩ := List.mem_map.mp hf
      refine ⟨?_, canonical_cardinality _⟩
      dsimp only
      split <;> rfl
  · obtain ⟨base, -, hb⟩ := List.mem_filterMap.mp h
    obtain ⟨id, -, rfl⟩ := Option.map_eq_some_iff.mp hb
    exact ⟨rfl, rfl⟩

end SymbolGraph

namespace Build

variable {n : Nat} {h : Harvest} {b : Build}

theorem sorted_of_ofHarvest (made : ofHarvest n h = .ok b) : b.graph.Sorted := by
  unfold ofHarvest at made
  split at made
  · cases made
  · rename_i graph hgraph
    cases made
    exact SymbolGraph.sorted_of_ofSymbols hgraph

theorem mem_of_mem_symbols (made : ofHarvest n h = .ok b) {s : Symbol}
    (hs : s ∈ b.graph.symbols) : s ∈ h.symbols := by
  obtain ⟨b', made', first, -⟩ := ofHarvest_ok n h
  obtain rfl : b = b' := Except.ok.inj (made.symm.trans made')
  have found : b.graph.get? s.id = some s := SymbolGraph.get?_iff.mpr ⟨hs, rfl⟩
  rw [first] at found
  exact List.mem_of_find?_eq_some found

theorem exists_harvest {config : ScanConfig} {units : List SourceUnit} {cancelled : Bool}
    (built : inOrder config units cancelled = .ok b) :
    ∃ h : Harvest, ofHarvest units.length h = .ok b ∧
      ∀ s ∈ h.symbols, ∃ u ∈ units, s ∈ u.symbols := by
  cases cancelled with
  | true => exact ⟨_, built, by simp [Harvest.symbols]⟩
  | false =>
      refine ⟨_, inOrder_eq_ofHarvest built, fun s hs => ?_⟩
      exact List.mem_flatMap.mp ((Harvest.symbols_sublist _ _ _).subset hs)

end Build

/-! ## Classifications -/

namespace Classification

variable {registry : RuleRegistry} (known : registry.Known) {config : ScanConfig}
  {graph : SymbolGraph}

def Restored (c : Classification) : Prop := c.Canonical ∧ c.toJson.IsReadable

include known in
theorem restored_ofSymbol {s : Symbol} {c : Classification}
    (h : ofSymbol registry config graph s = .ok c) : c.Restored := by
  obtain ⟨ballots, v, counted, judged, rfl⟩ := exists_verdict h
  obtain ⟨role, level, alternates⟩ := Verdict.roles_of_ofBallots judged
  have known_role : ∀ role ∈ Ballot.roles ballots, Role.ofWord role.word = role := by
    intro role hrole
    obtain ⟨b, hb, rfl⟩ := Ballot.mem_roles.mp hrole
    exact Role.ofWord_word (known b.rule (Ballot.of_mem_cast counted b hb).1)
  refine ⟨⟨known_role _ role, Level.ofWord_word level, fun a ha => ?_⟩, ?_⟩
  · obtain ⟨a', ha', rfl⟩ := List.mem_map.mp ha
    exact known_role _ (alternates a' ha')
  · refine readable_toJson_iff.mpr ⟨trivial, trivial, fun a ha => ?_⟩
    obtain ⟨a', -, rfl⟩ := List.mem_map.mp ha
    exact trivial

include known in
theorem restored_ofSymbols {symbols : List Symbol} {cs : List Classification}
    (h : ofSymbols registry config graph symbols = .ok cs) : ∀ c ∈ cs, c.Restored := by
  rw [ofSymbols_eq_mapM] at h
  intro c hc
  obtain ⟨s, -, made⟩ := exists_of_mem_mapM h hc
  exact restored_ofSymbol known made

/-- The rationale is no word, and no number stands in it. -/
theorem restored_explain {c e : Classification} (restored : c.Restored)
    (h : c.explain registry = .ok e) : e.Restored := by
  obtain ⟨canonical, readable⟩ := restored
  have numbers := readable_toJson_iff.mp readable
  unfold explain at h
  split at h
  · cases h
  split at h
  · cases h
  cases h
  exact ⟨⟨canonical.role, canonical.confidence, canonical.alternates⟩,
    readable_toJson_iff.mpr numbers⟩

theorem restored_explainAll {cs es : List Classification} (restored : ∀ c ∈ cs, c.Restored)
    (h : explainAll registry cs = .ok es) : ∀ e ∈ es, e.Restored := by
  rw [explainAll_eq_mapM] at h
  intro e he
  obtain ⟨c, hc, explained⟩ := exists_of_mem_mapM h he
  exact restored_explain (restored c hc) explained

end Classification

/-! ## Reports -/

namespace ScanEngine

variable {engine : ScanEngine}

theorem restored_assess (known : engine.registry.Known) {graph : SymbolGraph}
    {cs : List Classification} {fs : List Finding} (h : engine.assess graph = .ok (cs, fs)) :
    ∀ c ∈ cs, c.Restored := by
  obtain ⟨classified, made, explained⟩ := classified_of_assess h
  exact Classification.restored_explainAll (Classification.restored_ofSymbols known made) explained

/-- A report on symbols of units whose words are read back makes a baseline that is read back. -/
theorem canonical_of_report (known : engine.registry.Known) {units : List SourceUnit}
    (canonical : ∀ u ∈ units, u.extraction.Canonical) {n : Nat} {h : Harvest} {build : Build}
    (made : Build.ofHarvest n h = .ok build)
    (extracted : ∀ s ∈ h.symbols, ∃ u ∈ units, s ∈ u.symbols) {baseline : Option Baseline}
    {aliases : Aliases} {r : ScanReport}
    (reported : engine.report build baseline aliases = .ok r) (rootPath : String) :
    (r.capture rootPath).Canonical := by
  obtain ⟨cs, fs, summary, assessed, -, rfl⟩ := report_ok_iff.mp reported
  have restored := restored_assess known assessed
  exact {
    schema := ScanReport.readable_capture _ rootPath
    symbols := fun s hs => by
      obtain ⟨u, hu, hus⟩ := extracted s (Build.mem_of_mem_symbols made hs)
      exact SourceUnit.canonical_symbols (canonical u hu) hus
    edges := fun e he =>
      SymbolGraph.canonical_derivedEdges ((Build.derived_of_ofHarvest made e).mp he)
    classifications := fun c hc => (restored c hc).1
    numbers := fun c hc => (restored c hc).2
    sorted := Build.sorted_of_ofHarvest made }

end ScanEngine

end TacticalDesign
