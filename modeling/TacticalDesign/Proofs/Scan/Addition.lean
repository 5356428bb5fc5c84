import TacticalDesign.Proofs.Classification.Locality
import TacticalDesign.Proofs.Diff.SameGraph
import TacticalDesign.Proofs.Scan.Failures
/-!
# One unit more

A unit that is scanned behind the others takes nothing from them. Where its symbols have nothing to
do with those of the other units, these are classified as they were, and a comparison with a
baseline of the other units tells of the new symbols only.
-/

namespace TacticalDesign

namespace Harvest

/-- What the units give stays when another one comes behind them; it is extracted as well, if the
run gets to it and a worker is left. -/
theorem ofUnits_append (limit : Float) (workers : Nat) (units : List SourceUnit)
    (extra : SourceUnit) :
    ∃ late, (ofUnits limit workers (units ++ [extra])).symbols =
        (ofUnits limit workers units).symbols ++ late ∧
      (late = [] ∨ late = extra.symbols) ∧
      ((ofUnits limit workers units).complete = true → extra.extraction ≠ .cancelling →
        (ofUnits limit workers (units ++ [extra])).complete = true ∧
          (units.countP (·.neverReturns) < workers → late = extra.symbols)) := by
  induction units generalizing workers with
  | nil =>
      cases workers with
      | zero =>
          obtain ⟨symbols_nil, complete, -⟩ := ofUnits_zero limit [extra]
          exact ⟨[], symbols_nil, Or.inl rfl, fun _ _ => ⟨complete, fun served => by cases served⟩⟩
      | succ free =>
          by_cases asks : extra.extraction = .cancelling
          · refine ⟨[], ?_, Or.inl rfl, fun _ obeys => absurd asks obeys⟩
            rw [List.nil_append, ofUnits_cancelling asks]
            rfl
          · obtain ⟨gives, completes, -⟩ := ofUnits_served limit free (u := extra) [] asks
            exact ⟨extra.symbols, gives.trans (List.append_nil _), Or.inr rfl,
              fun _ _ => ⟨completes, fun _ => rfl⟩⟩
  | cons u rest ih =>
      cases workers with
      | zero =>
          obtain ⟨before, -, -⟩ := ofUnits_zero limit (u :: rest)
          obtain ⟨after, complete, -⟩ := ofUnits_zero limit (u :: rest ++ [extra])
          refine ⟨[], after.trans (by rw [before]; rfl), Or.inl rfl, fun _ _ => ⟨complete, ?_⟩⟩
          exact fun served => by cases served
      | succ free =>
          by_cases asks : u.extraction = .cancelling
          · -- The run ends before it gets to the last unit.
            refine ⟨[], ?_, Or.inl rfl, fun complete => absurd asks (obeys_of_complete complete)⟩
            rw [List.cons_append, ofUnits_cancelling asks, ofUnits_cancelling asks]
            rfl
          · obtain ⟨gives, completes, -⟩ := ofUnits_served limit free rest asks
            obtain ⟨gives', completes', -⟩ := ofUnits_served limit free (rest ++ [extra]) asks
            obtain ⟨late, later, whole, ends⟩ := ih (if u.neverReturns then free else free + 1)
            refine ⟨late, ?_, whole, ?_⟩
            · rw [List.cons_append, gives', gives, later, List.append_assoc]
            · rw [List.cons_append, completes, completes', List.countP_cons]
              intro complete obeys
              refine ⟨(ends complete obeys).1, fun served => (ends complete obeys).2 ?_⟩
              split <;> split at served <;> omega

end Harvest

namespace SymbolGraph

/-- Of more symbols, of which those of a known id are the same, comes a larger graph. -/
theorem grows_of_append {g g' : SymbolGraph} {symbols late extra : List Symbol}
    (first : ∀ id, g.get? id = symbols.find? (·.id == id))
    (first' : ∀ id, g'.get? id = (symbols ++ late).find? (·.id == id))
    (sub : ∀ s ∈ late, s ∈ extra) (derived : g.Derived) (derived' : g'.Derived) :
    g.Grows g' extra where
  kept := by
    apply eq_of_ascend Symbol.id g.symbols_ascend (g'.symbols_ascend.sublist List.filter_sublist)
    intro s
    have same : s.id ∈ g.ids → g'.get? s.id = g.get? s.id := by
      intro inside
      obtain ⟨t, ht⟩ := Option.isSome_iff_exists.mp (get?_isSome inside)
      rw [first', List.find?_append, ← first, ht, Option.some_or]
    have mem : ∀ {h : SymbolGraph}, s ∈ h.symbols ↔ h.get? s.id = some s := by
      intro h
      rw [get?_iff, and_iff_left rfl]
    rw [List.mem_filter, decide_eq_true_eq, mem]
    constructor
    · intro hs
      have inside : s.id ∈ g.ids := mem_ids_of_mem (mem.mpr hs)
      exact ⟨mem.mpr ((same inside).trans hs), inside⟩
    · rintro ⟨hs, inside⟩
      exact (same inside).symm.trans (mem.mp hs)
  others := by
    intro s hs outside
    have found : g'.get? s.id = some s := get?_iff.mpr ⟨hs, rfl⟩
    rw [first', List.find?_append, ← first, get?_eq_none_iff.mpr outside, Option.none_or] at found
    exact sub s (List.mem_of_find?_eq_some found)
  derived := derived
  derived' := derived'

end SymbolGraph

namespace Build

variable {config : ScanConfig} {units : List SourceUnit} {extra : SourceUnit} {first second : Build}

theorem grows_of_append (built : inOrder config units false = .ok first)
    (built' : inOrder config (units ++ [extra]) false = .ok second) :
    first.graph.Grows second.graph extra.symbols ∧
      (first.complete = true → extra.extraction ≠ .cancelling → second.complete = true ∧
        (units.countP (·.neverReturns) < config.maxWorkers.toNat →
          ∀ x ∈ extra.symbols, x.id ∈ second.graph.ids)) := by
  have made := inOrder_eq_ofHarvest built
  have made' := inOrder_eq_ofHarvest built'
  obtain ⟨late, gives, whole, ends⟩ :=
    Harvest.ofUnits_append config.unitTimeout config.maxWorkers.toNat units extra
  have known' : ∀ id, second.graph.get? id =
      ((Harvest.ofUnits config.unitTimeout config.maxWorkers.toNat units).symbols ++ late).find?
        (·.id == id) := by
    intro id
    rw [get?_of_ofHarvest made', gives]
  have sub : ∀ s ∈ late, s ∈ extra.symbols := by
    rcases whole with rfl | rfl
    · simp
    · exact fun s hs => hs
  refine ⟨SymbolGraph.grows_of_append (get?_of_ofHarvest made) known' sub
    (derived_of_ofHarvest made) (derived_of_ofHarvest made'), ?_⟩
  rw [complete_of_ofHarvest made, complete_of_ofHarvest made']
  intro complete obeys
  refine ⟨(ends complete obeys).1, ?_⟩
  intro served x hx
  obtain rfl := (ends complete obeys).2 served
  by_contra outside
  rw [← SymbolGraph.get?_eq_none_iff, known', List.find?_eq_none] at outside
  exact outside x (List.mem_append_right _ hx) (beq_self_eq_true x.id)

end Build

namespace ScanEngine

variable {engine : ScanEngine} {g g' : SymbolGraph} {cs cs' : List Classification}
  {fs fs' : List Finding}

theorem assess_of_frame (catalog : engine.registry.OfCatalog) (frame : g.Frame g')
    (assessed : engine.assess g = .ok (cs, fs)) (assessed' : engine.assess g' = .ok (cs', fs')) :
    cs = cs'.filter fun c => c.symbolId ∈ g.ids := by
  obtain ⟨classified, made, explained⟩ := classified_of_assess assessed
  obtain ⟨classified', made', explained'⟩ := classified_of_assess assessed'
  have part : Classification.ofSymbols engine.registry engine.config g g.symbols =
      .ok (classified'.filter fun c => c.symbolId ∈ g.ids) := by
    rw [frame.kept]
    apply Classification.ofSymbols_filter (fun id => id ∈ g.ids) _ made'
    intro s hs inside
    have old : s ∈ g.symbols := frame.mem_symbols_iff.mpr ⟨hs, of_decide_eq_true inside⟩
    exact Classification.ofSymbol_eq frame catalog old
  obtain rfl : classified = classified'.filter fun c => c.symbolId ∈ g.ids :=
    Except.ok.inj (made.symm.trans part)
  have explained_part := Classification.explainAll_filter (fun id => id ∈ g.ids) explained'
  exact Except.ok.inj (explained.symm.trans explained_part)

/-- Between a graph and a larger one that is classified alike there is nothing to tell but the new
symbols, and each of these once. -/
theorem records_of_frame (frame : g.Frame g') (same : cs = cs'.filter fun c => c.symbolId ∈ g.ids)
    (skippedPaths : List String) :
    let records := Comparison.records ⟨g, g', [], skippedPaths⟩ cs cs'
    (∀ r ∈ records, ∃ t ∈ g'.symbols, t.id ∉ g.ids ∧ Comparison.addition cs' t = r) ∧
      ∀ id ∈ g'.ids, id ∉ g.ids → records.filter (fun r => r.symbolId = id) =
        [{ symbolId := id, kind := .added, current := Classification.of? cs' id }] := by
  intro records
  let c : Comparison := ⟨g, g', [], skippedPaths⟩
  have enlarges : c.Enlarges :=
    { aliases := rfl
      symbols := fun _ hs => (frame.mem_symbols_iff.mp hs).1
      edges := fun e inside => frame.edges e (Or.inl inside) }
  have agree : ∀ s ∈ g.symbols, (Classification.of? cs s.id).map (·.gist) =
      (Classification.of? cs' s.id).map (·.gist) := by
    intro s hs
    have inside : decide (s.id ∈ g.ids) = true := decide_eq_true (SymbolGraph.mem_ids_of_mem hs)
    rw [same, Classification.of?_filter (fun id => id ∈ g.ids) inside]
  constructor
  · exact fun r hr => (enlarges.mem_records_iff agree).mp hr
  · rintro id inside new
    obtain ⟨t, ht, rfl⟩ := List.mem_map.mp inside
    have conserved : c.Conserved cs cs' records :=
      Comparison.conserved_records (Aliases.not_misfit_nil g g')
    apply conserved.added t ht
    rwa [enlarges.matchedIds_eq]

/-- A unit more whose symbols have nothing to do with those of the others: these are classified as
they were, with whatever baseline, and against the baseline of the others each new symbol has a
record of its addition and there are no other records. Of a unit that declares something all symbols
are new as long as a worker is left for it. -/
theorem unrelated_unit_only_adds (config : ScanConfig) (ratio : NameRatio) {units : List SourceUnit}
    {extra : SourceUnit} {first second : Build}
    (built : Build.Outcome config units false (.ok first))
    (built' : Build.Outcome config (units ++ [extra]) false (.ok second))
    (unrelated : first.graph.Unrelated second.graph extra.symbols) :
    ∃ report, (standard config ratio).MayReturn units none [] false (.ok report) ∧
      (standard config ratio).Ends units none [] false (.ok report) ∧
      (∀ baseline aliases report',
        (standard config ratio).MayReturn (units ++ [extra]) baseline aliases false (.ok report') →
          report.classifications =
            report'.classifications.filter fun c => c.symbolId ∈ first.graph.ids) ∧
      (first.complete = true → extra.extraction ≠ .cancelling → ∀ rootPath,
        ∃ b report' changes, report.toBaseline rootPath = .ok b ∧
          (standard config ratio).MayReturn (units ++ [extra]) (some b) [] false (.ok report') ∧
          (standard config ratio).Ends (units ++ [extra]) (some b) [] false (.ok report') ∧
          report'.changes = some changes ∧
          (∀ r ∈ changes, ∃ x ∈ extra.symbols,
            r = Comparison.addition report'.classifications x) ∧
          (∀ x ∈ extra.symbols, x.id ∈ second.graph.ids →
            changes.filter (fun r => r.symbolId = x.id) =
              [Comparison.addition report'.classifications x]) ∧
          (units.countP (·.neverReturns) < config.maxWorkers.toNat →
            ∀ x ∈ extra.symbols, x.id ∈ second.graph.ids)) := by
  have made := built.inOrder_eq
  have made' := built'.inOrder_eq
  obtain ⟨grows, ends⟩ := Build.grows_of_append made made'
  have frame := grows.frame unrelated
  obtain ⟨cs, fs, assessed⟩ := assess_standard config ratio first.graph
  obtain ⟨cs', fs', assessed'⟩ := assess_standard config ratio second.graph
  have same := assess_of_frame RuleRegistry.ofCatalog_standard frame assessed assessed'
  let report := (standard config ratio).reportOf first cs fs none
  have told : (standard config ratio).runOn (.ok first) none [] = .ok report :=
    runOn_eq_of_assess [] readable_none assessed
  refine ⟨report, ⟨_, built, told⟩, ends_of_runOn (standard config ratio) made told, ?_, ?_⟩
  · intro baseline aliases report' ran'
    obtain ⟨-, build, made'', reported⟩ := ran'.exists_build
    obtain rfl : second = build := Except.ok.inj (made'.symm.trans made'')
    obtain ⟨cs'', fs'', summary, assessed'', -, rfl⟩ := report_ok_iff.mp reported
    exact assess_of_frame RuleRegistry.ofCatalog_standard frame assessed assessed''
  · intro complete obeys rootPath
    obtain ⟨complete', all_there⟩ := ends complete obeys
    obtain ⟨hints, told', -⟩ := runOn_of_fit (standard config ratio) [] (report.capture rootPath)
      (report.readable_capture rootPath) assessed' complete' (Aliases.not_misfit_nil _ _)
    obtain ⟨only, each⟩ := records_of_frame frame same (second.skipped.map (·.path))
    refine ⟨_, _, _, report.toBaseline_of_complete complete rootPath, ⟨_, built', told'⟩,
      ends_of_runOn (standard config ratio) made' told', rfl, ?_, ?_, all_there⟩
    · intro r hr
      obtain ⟨t, ht, new, rfl⟩ := only r hr
      exact ⟨t, grows.others t ht new, rfl⟩
    · exact fun x hx inside => each x.id inside (unrelated.fresh x hx)

def ordersUnit : SourceUnit :=
  ⟨"orders.py", "python", .declared
    [{ name := "Order", fields := [{ name := "id", declaredType := some "str" },
          { name := "items", declaredType := some "list[Item]" }] },
      { name := "Item", fields := [{ name := "order_id", declaredType := some "str" }] },
      { name := "OrderRepository", kind := .interfaceType,
        methods := [{ name := "find", signature := "find(id: str) -> Order",
                      parameterTypes := ["str"], returnType := some "Order" }] }]⟩

def weatherUnit : SourceUnit := oneClass "weather.py" "Weather"

theorem unrelated_weather {first second : Build}
    (built : Build.inOrder {} [ordersUnit] false = .ok first)
    (built' : Build.inOrder {} ([ordersUnit] ++ [weatherUnit]) false = .ok second) :
    first.graph.Unrelated second.graph weatherUnit.symbols := by
  have known : ∀ s ∈ first.graph.symbols, s ∈ ordersUnit.symbols := by
    intro s hs
    have found := SymbolGraph.get?_iff.mpr ⟨hs, rfl⟩
    rw [Build.get?_of_ofHarvest (Build.inOrder_eq_ofHarvest built)] at found
    exact List.mem_of_find?_eq_some found
  have fresh : ∀ x ∈ weatherUnit.symbols, x.id ∉ first.graph.ids := by
    intro x hx inside
    obtain ⟨s, hs, same⟩ := List.mem_map.mp inside
    have apart : ∀ s ∈ ordersUnit.symbols, ∀ x ∈ weatherUnit.symbols, s.id ≠ x.id := by decide
    exact apart s (known s hs) x hx same
  refine ⟨fresh, ?_, ?_, ?_, by decide⟩
  · intro s hs
    have unsought : ∀ s ∈ ordersUnit.symbols, ∀ name ∈ s.soughtNames,
        ∀ x ∈ weatherUnit.symbols,
          name ≠ x.qualifiedName ∧ SymbolGraph.simpleName name ≠ x.name := by decide
    exact unsought s (known s hs)
  · intro s hs
    have unreferenced : ∀ s ∈ ordersUnit.symbols, ∀ field ∈ s.fields,
        ∀ x ∈ weatherUnit.symbols,
          s.identityReferenceTarget field ≠ some (normalizeName x.name) := by decide
    exact unreferenced s (known s hs)
  · rintro e he x hx source -
    have grows := (Build.grows_of_append built built').1
    obtain ⟨s, hs, hse⟩ := List.mem_flatMap.mp ((grows.derived' e).mp he)
    have same : s.id = x.id := (SymbolGraph.sourceId_of_mem_symbolEdges hse).symm.trans source
    have bare : ∀ t ∈ weatherUnit.symbols, t.fields = [] ∧ t.bases = [] := by decide
    obtain ⟨no_field, no_base⟩ := bare s (grows.others s hs (same ▸ fresh x hx))
    simp [SymbolGraph.symbolEdges, no_field, no_base] at hse

/-- The weather is added to the orders. -/
theorem unrelated_weather_only_adds :
    ∃ first second report b report' changes,
      Build.ofUnits {} [ordersUnit] false = .ok first ∧
        Build.ofUnits {} ([ordersUnit] ++ [weatherUnit]) false = .ok second ∧
        first.graph.Unrelated second.graph weatherUnit.symbols ∧
        (standard {}).run [ordersUnit] none [] false = .ok report ∧
        report.toBaseline "" = .ok b ∧
        (standard {}).run ([ordersUnit] ++ [weatherUnit]) (some b) [] false = .ok report' ∧
        report.classifications =
          report'.classifications.filter (fun c => c.symbolId ∈ first.graph.ids) ∧
        report'.changes = some changes ∧
        changes.filter (fun r => r.symbolId = "weather.py::Weather") =
          [{ symbolId := "weather.py::Weather"
             kind := .added
             current := Classification.of? report'.classifications "weather.py::Weather" }] := by
  obtain ⟨first, built, -, complete⟩ := Build.inOrder_holds {} [ordersUnit]
  obtain ⟨second, built', -, -⟩ := Build.inOrder_holds {} ([ordersUnit] ++ [weatherUnit])
  have unrelated := unrelated_weather built built'
  obtain ⟨report, ran, -, stays, adds⟩ := unrelated_unit_only_adds {} _
    (built ▸ Build.outcome_of_short (by decide)) (built' ▸ Build.outcome_of_short (by decide))
    unrelated
  have finished : first.complete = true := complete.trans (by decide)
  obtain ⟨b, report', changes, made, ran', -, changed, -, each, all_there⟩ :=
    adds finished (by decide) ""
  obtain ⟨x, hx, about⟩ : ∃ x ∈ weatherUnit.symbols, x.id = "weather.py::Weather" := by decide
  have once := each x hx (all_there (by decide) x hx)
  rw [Comparison.addition, about] at once
  exact ⟨first, second, report, b, report', changes,
    (Build.ofUnits_of_short (by decide)).trans built,
    (Build.ofUnits_of_short (by decide)).trans built', unrelated, ran.run_eq (by decide), made,
    ran'.run_eq (by decide), stays _ _ _ ran', changed, once⟩

end ScanEngine

end TacticalDesign
