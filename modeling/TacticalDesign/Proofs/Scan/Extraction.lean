import TacticalDesign.Proofs.Graph.Shrinking
import TacticalDesign.Proofs.Pool.Reach
/-!
# What a scan extracts

The units that a worker is left for give their symbols, each once, and the units that give none are
skipped under their paths. Where no id repeats all these symbols are in the graph.
-/

namespace TacticalDesign

namespace SourceUnit

theorem yield?_of_failed {u : SourceUnit} {f : Failure} (h : u.extraction = .failed f) :
    u.yield? = some (.skip (u.unparseable f)) := by
  simp only [yield?, h]

/-- Only a unit that overruns or asks for the end of the run keeps it waiting. -/
theorem yield?_eq_none_iff {u : SourceUnit} :
    u.yield? = none ↔ u.extraction = .overrun ∨ u.extraction = .cancelling := by
  unfold yield?
  cases u.extraction with
  | declared ds => cases h : u.symbolsOf ds <;> simp [h]
  | failed f => simp
  | overrun => simp
  | cancelling => simp

def symbols (u : SourceUnit) : List Symbol :=
  match u.part? with
  | some p => p.symbols
  | none => []

def IsServed (workers : Nat) (units : List SourceUnit) (i : Nat) : Prop :=
  (units.take i).countP (·.neverReturns) < workers

theorem isServed_zero {workers : Nat} {units : List SourceUnit} :
    IsServed workers units 0 ↔ 0 < workers := by
  simp [IsServed]

theorem isServed_succ {free : Nat} {u : SourceUnit} {rest : List SourceUnit} {i : Nat} :
    IsServed (free + 1) (u :: rest) (i + 1) ↔
      IsServed (if u.neverReturns then free else free + 1) rest i := by
  rw [IsServed, IsServed, List.take_succ_cons, List.countP_cons]
  split <;> omega

theorem exists_declaration {u : SourceUnit} {s : Symbol} (h : s ∈ u.symbols) :
    ∃ ds, u.extraction = .declared ds ∧ ∃ d ∈ ds, u.symbolOf d = s := by
  unfold symbols part? yield? symbolsOf at h
  cases hu : u.extraction with
  | declared ds =>
      by_cases blank : (ds.any fun d => Text.isBlankText d.name) = true
      · simp [hu, blank, Yield.part?] at h
      · simp only [hu, blank, Yield.part?] at h
        exact ⟨ds, rfl, List.mem_map.mp h⟩
  | failed f => simp [hu, Yield.part?] at h
  | overrun => simp [hu] at h
  | cancelling => simp [hu] at h

end SourceUnit

/-! ## What is extracted -/

namespace Harvest

variable {limit : Float}

def symbols (h : Harvest) : List Symbol := h.parts.flatMap (·.symbols)

theorem ofUnits_zero (limit : Float) (units : List SourceUnit) :
    (ofUnits limit 0 units).symbols = [] ∧ (ofUnits limit 0 units).complete = true ∧
      (ofUnits limit 0 units).skipped = units.map (·.starved) := by
  induction units with
  | nil => exact ⟨rfl, rfl, rfl⟩
  | cons u rest ih =>
      obtain ⟨symbols_nil, complete, skipped⟩ := ih
      exact ⟨symbols_nil, complete, congrArg (u.starved :: ·) skipped⟩

/-- A unit that asks for the run to end gives nothing, and the run does not get any further. -/
theorem ofUnits_cancelling {free : Nat} {u : SourceUnit} {rest : List SourceUnit}
    (asks : u.extraction = .cancelling) :
    ofUnits limit (free + 1) (u :: rest) = { complete := false } := by
  have silent : u.yield? = none := SourceUnit.yield?_eq_none_iff.mpr (Or.inr asks)
  simp only [ofUnits, silent, if_pos asks]

theorem obeys_of_complete {free : Nat} {u : SourceUnit} {rest : List SourceUnit}
    (complete : (ofUnits limit (free + 1) (u :: rest)).complete = true) :
    u.extraction ≠ .cancelling := by
  intro asks
  rw [ofUnits_cancelling asks] at complete
  cases complete

theorem ofUnits_served (limit : Float) (free : Nat) {u : SourceUnit} (rest : List SourceUnit)
    (obeys : u.extraction ≠ .cancelling) :
    let later := ofUnits limit (if u.neverReturns then free else free + 1) rest
    (ofUnits limit (free + 1) (u :: rest)).symbols = u.symbols ++ later.symbols ∧
      (ofUnits limit (free + 1) (u :: rest)).complete = later.complete ∧
      (ofUnits limit (free + 1) (u :: rest)).skipped = (u.skip? limit).toList ++ later.skipped := by
  intro later
  cases hy : u.yield? with
  | none =>
      have never : u.neverReturns = true := by simp [SourceUnit.neverReturns, hy]
      simp [later, ofUnits, hy, obeys, never, symbols, addSkip, SourceUnit.symbols,
        SourceUnit.part?, SourceUnit.skip?]
  | some y =>
      have returns : u.neverReturns = false := by simp [SourceUnit.neverReturns, hy]
      cases y <;>
        simp [later, ofUnits, hy, returns, symbols, add, addSkip, SourceUnit.symbols,
          SourceUnit.part?, SourceUnit.skip?, Yield.part?, Yield.skip?]

theorem symbols_sublist (limit : Float) (workers : Nat) (units : List SourceUnit) :
    (ofUnits limit workers units).symbols.Sublist (units.flatMap (·.symbols)) := by
  induction units generalizing workers with
  | nil => exact List.nil_sublist _
  | cons u rest ih =>
      cases workers with
      | zero =>
          rw [(ofUnits_zero limit (u :: rest)).1]
          exact List.nil_sublist _
      | succ free =>
          by_cases asks : u.extraction = .cancelling
          · rw [ofUnits_cancelling asks]
            exact List.nil_sublist _
          · rw [(ofUnits_served limit free rest asks).1, List.flatMap_cons]
            exact (ih _).append_left u.symbols

end Harvest

namespace Build

variable {n : Nat} {h : Harvest} {b : Build}

theorem derived_of_ofHarvest (made : ofHarvest n h = .ok b) : b.graph.Derived := by
  unfold ofHarvest at made
  split at made
  · cases made
  · rename_i graph hgraph
    cases made
    exact SymbolGraph.derived_of_ofSymbols hgraph

theorem get?_of_ofHarvest (made : ofHarvest n h = .ok b) (id : String) :
    b.graph.get? id = h.symbols.find? (·.id == id) := by
  obtain ⟨b', made', first, -⟩ := ofHarvest_ok n h
  obtain rfl : b = b' := Except.ok.inj (made.symm.trans made')
  exact first id

theorem mem_symbols_iff (made : ofHarvest n h = .ok b) (distinct : (h.symbols.map (·.id)).Nodup)
    {s : Symbol} : s ∈ b.graph.symbols ↔ s ∈ h.symbols := by
  have in_graph : b.graph.get? s.id = some s ↔ s ∈ b.graph.symbols := by
    simp [SymbolGraph.get?_iff]
  have extracted : h.symbols.find? (·.id == s.id) = some s ↔ s ∈ h.symbols := by
    simp [SymbolGraph.find?_id_iff distinct]
  rw [← in_graph, get?_of_ofHarvest made, ← extracted]

theorem complete_of_ofHarvest (made : ofHarvest n h = .ok b) : b.complete = h.complete := by
  obtain ⟨b', made', -, -, -, -, complete⟩ := ofHarvest_ok n h
  rw [made] at made'
  exact Except.ok.inj made' ▸ complete

theorem mem_ids_iff (made : ofHarvest n h = .ok b) (id : String) :
    id ∈ b.graph.ids ↔ ∃ s ∈ h.symbols, s.id = id := by
  rw [← not_iff_not, ← SymbolGraph.get?_eq_none_iff, get?_of_ofHarvest made, List.find?_eq_none]
  simp

theorem inOrder_holds (config : ScanConfig) (units : List SourceUnit) :
    let h := Harvest.ofUnits config.unitTimeout config.maxWorkers.toNat units
    ∃ b, inOrder config units false = .ok b ∧
      (∀ id, id ∈ b.graph.ids ↔ ∃ s ∈ h.symbols, s.id = id) ∧ b.complete = h.complete := by
  intro h
  obtain ⟨b, made⟩ := inOrder_ok config units false
  exact ⟨b, made, mem_ids_iff made, complete_of_ofHarvest made⟩

theorem inOrder_eq_ofHarvest {config : ScanConfig} {units : List SourceUnit}
    (built : inOrder config units false = .ok b) :
    ofHarvest units.length
      (Harvest.ofUnits config.unitTimeout config.maxWorkers.toNat units) = .ok b :=
  built

/-- A run that came to its end was not cancelled before it had anything to do. -/
theorem inOrder_of_complete {config : ScanConfig} {units : List SourceUnit} {cancelled : Bool}
    (built : inOrder config units cancelled = .ok b) (complete : b.complete = true) :
    inOrder config units false = .ok b := by
  cases cancelled with
  | false => exact built
  | true =>
      have none_left : units.isEmpty = true := by
        exact (complete_of_ofHarvest built).symm.trans complete
      obtain rfl := List.isEmpty_iff.mp none_left
      exact built

end Build

end TacticalDesign
