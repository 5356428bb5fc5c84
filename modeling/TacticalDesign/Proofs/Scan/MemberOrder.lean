import TacticalDesign.Proofs.Classification.MemberOrder
import TacticalDesign.Proofs.Diff.MemberOrder
import TacticalDesign.Proofs.Scan.Extraction
import TacticalDesign.Proofs.Scan.Summary
/-!
# Scanning again after members were put in another order

Units whose declarations have their members in another order are extracted, linked and classified as
before. A scan of them against a baseline of the earlier order has no record but of symbols in which
methods with one name and one signature come in another order.
-/

namespace TacticalDesign

/-! ## Units -/

inductive Extraction.Reorders : Extraction → Extraction → Prop where
  | declared {ds es : List TypeDeclaration}
      (members : List.Forall₂ TypeDeclaration.Reorders ds es) :
      Reorders (.declared ds) (.declared es)
  | failed (f : Failure) : Reorders (.failed f) (.failed f)
  | overrun : Reorders .overrun .overrun
  | cancelling : Reorders .cancelling .cancelling

theorem Extraction.Reorders.cancelling_iff {x y : Extraction} (h : x.Reorders y) :
    x = .cancelling ↔ y = .cancelling := by
  cases h <;> simp

structure SourceUnit.Reorders (u v : SourceUnit) : Prop where
  path : u.path = v.path
  language : u.language = v.language
  extraction : u.extraction.Reorders v.extraction

inductive Yield.Reorders : Yield → Yield → Prop where
  | part {path : String} {symbols symbols' : List Symbol}
      (related : List.Forall₂ Symbol.Reorders symbols symbols') :
      Reorders (.part ⟨path, symbols⟩) (.part ⟨path, symbols'⟩)
  | skip (s : SkippedUnit) : Reorders (.skip s) (.skip s)

namespace SourceUnit

namespace Reorders

variable {u v : SourceUnit} (h : u.Reorders v)

include h

theorem yield?_rel : Option.Rel Yield.Reorders u.yield? v.yield? := by
  obtain ⟨path, language, x⟩ := u
  obtain ⟨_, _, y⟩ := v
  obtain ⟨rfl, rfl, related⟩ := h
  cases related with
  | @declared ds es members =>
      have blank : (ds.any fun d => Text.isBlankText d.name) =
          es.any fun e => Text.isBlankText e.name :=
        any_eq_of_forall₂ members fun de => by rw [de.name]
      have symbols : List.Forall₂ Symbol.Reorders
          (ds.map (symbolOf ⟨path, language, .declared ds⟩))
          (es.map (symbolOf ⟨path, language, .declared es⟩)) := by
        rw [List.forall₂_map_left_iff, List.forall₂_map_right_iff]
        exact members.imp fun d e de => symbolOf_reorders ⟨path, language, .declared ds⟩ de
      unfold yield? symbolsOf
      cases named : es.any fun e => Text.isBlankText e.name with
      | true =>
          simp only [blank, named, if_true]
          exact .some (.skip _)
      | false =>
          simp only [blank, named]
          exact .some (.part symbols)
  | failed f => exact .some (.skip _)
  | overrun => exact .none
  | cancelling => exact .none

theorem neverReturns_eq : u.neverReturns = v.neverReturns := by
  have related := h.yield?_rel
  unfold neverReturns
  generalize u.yield? = y, v.yield? = z at related
  cases related with
  | some _ => rfl
  | none => rfl

theorem symbols_rel : List.Forall₂ Symbol.Reorders u.symbols v.symbols := by
  have related := h.yield?_rel
  unfold symbols part?
  generalize u.yield? = y, v.yield? = z at related
  cases related with
  | some related =>
      cases related with
      | part related => exact related
      | skip s => exact .nil
  | none => exact .nil

end Reorders

end SourceUnit

namespace Harvest

/-- Related units give related symbols, and a run of them comes to its end as before. -/
theorem ofUnits_rel {units units' : List SourceUnit}
    (related : List.Forall₂ SourceUnit.Reorders units units') (limit : Float) (workers : Nat) :
    List.Forall₂ Symbol.Reorders (ofUnits limit workers units).symbols
        (ofUnits limit workers units').symbols ∧
      (ofUnits limit workers units).complete = (ofUnits limit workers units').complete := by
  induction related generalizing workers with
  | nil => exact ⟨.nil, rfl⟩
  | @cons u v rest rest' uv _ ih =>
      cases workers with
      | zero =>
          obtain ⟨symbols, complete, -⟩ := ofUnits_zero limit (u :: rest)
          obtain ⟨symbols', complete', -⟩ := ofUnits_zero limit (v :: rest')
          rw [symbols, symbols', complete, complete']
          exact ⟨.nil, rfl⟩
      | succ free =>
          by_cases asks : u.extraction = .cancelling
          · rw [ofUnits_cancelling asks, ofUnits_cancelling (uv.extraction.cancelling_iff.mp asks)]
            exact ⟨.nil, rfl⟩
          · obtain ⟨gives, completes, -⟩ := ofUnits_served limit free rest asks
            obtain ⟨gives', completes', -⟩ := ofUnits_served limit free rest'
              (mt uv.extraction.cancelling_iff.mpr asks)
            obtain ⟨symbols, complete⟩ := ih (if u.neverReturns then free else free + 1)
            rw [gives, gives', completes, completes', ← uv.neverReturns_eq]
            exact ⟨List.rel_append uv.symbols_rel symbols, complete⟩

end Harvest

namespace Build

variable {config : ScanConfig} {units units' : List SourceUnit}
  (related : List.Forall₂ SourceUnit.Reorders units units')

include related

theorem inOrder_rel {first : Build} (built : inOrder config units false = .ok first) :
    ∃ second, inOrder config units' false = .ok second ∧ first.graph.Reorders second.graph ∧
      second.complete = first.complete := by
  have made := inOrder_eq_ofHarvest built
  obtain ⟨second, built', -, complete'⟩ := inOrder_holds config units'
  have made' := inOrder_eq_ofHarvest built'
  obtain ⟨symbols, complete⟩ :=
    Harvest.ofUnits_rel related config.unitTimeout config.maxWorkers.toNat
  refine ⟨second, built', ?_, ?_⟩
  · apply SymbolGraph.reorders_of_get? _ (derived_of_ofHarvest made) (derived_of_ofHarvest made')
    intro id
    rw [get?_of_ofHarvest made, get?_of_ofHarvest made']
    exact find?_rel symbols fun st => by rw [st.id]
  · rw [complete', complete_of_ofHarvest made, complete]

end Build

namespace ScanEngine

variable {engine : ScanEngine} {cs : List Classification} {fs : List Finding}

theorem assess_of_reorders {g g' : SymbolGraph} (catalog : engine.registry.OfCatalog)
    (related : g.Reorders g') (assessed : engine.assess g = .ok (cs, fs)) :
    ∃ fs', engine.assess g' = .ok (cs, fs') := by
  obtain ⟨classified, made, explained⟩ := classified_of_assess assessed
  have made' : Classification.ofGraph engine.registry engine.config g' = .ok classified :=
    (Classification.ofGraph_eq_of_reorders related catalog).symm.trans made
  obtain ⟨fs', found⟩ := Finding.explainAll_ok
    (AntiPattern.detect engine.config g' (classified.map fun c => (c.symbolId, c.role)))
    fun f hf => AntiPattern.severity_of_mem_detect hf
  refine ⟨fs', ?_⟩
  simp only [assess, made', explained, found, wrap, bind, Except.bind, pure, Except.pure]

variable {units units' : List SourceUnit}

theorem run_of_reorders (catalog : engine.registry.OfCatalog)
    (related : List.Forall₂ SourceUnit.Reorders units units') {first : Build}
    (built : Build.inOrder engine.config units false = .ok first)
    (complete : first.complete = true) (assessed : engine.assess first.graph = .ok (cs, fs))
    {b : Baseline} (readable : Baseline.HasCurrentMajor b.schemaVersion)
    (same : b.graph = first.graph) (agree : Classification.Agree b.classifications cs) :
    ∃ r' records, engine.Ends units' (some b) [] false (.ok r') ∧
      first.graph.Reorders r'.graph ∧ r'.classifications = cs ∧ r'.changes = some records ∧
      ∀ c, c ∈ records ↔ ∃ s ∈ first.graph.symbols, ∃ t ∈ r'.graph.symbols, s.id = t.id ∧
        ¬s.KeepsOverloads t ∧ Comparison.reordering b.classifications cs s t = c := by
  obtain ⟨second, built', graphs, complete'⟩ := Build.inOrder_rel related built
  obtain ⟨fs', assessed'⟩ := assess_of_reorders catalog graphs assessed
  obtain ⟨hints, ran, -⟩ := runOn_of_fit engine [] b readable assessed'
    (complete'.trans complete) (Aliases.not_misfit_nil _ _)
  have reorders : (comparisonOf b second []).Reorders := ⟨rfl, by rwa [comparisonOf, same]⟩
  refine ⟨_, _, ends_of_runOn engine built' ran, graphs, rfl, rfl, fun c => ?_⟩
  rw [← same]
  exact reorders.mem_records_iff agree

/-- Scanning the units of a complete report again, after the members of their declarations were put
in another order, gives a report with the same classifications. Against the baseline that the first
report makes it has one record for each symbol in which methods with one name and one signature come
in another order, which lists the names of such methods and nothing else; so there is no record
exactly where these methods keep their order. The one other end of such a scan is the failure of a
wait that is too long. -/
theorem rescan_tells_reordered_overloads (engine : ScanEngine)
    (customized : engine.registry.Customized) {units units' : List SourceUnit}
    (related : List.Forall₂ SourceUnit.Reorders units units') {baseline : Option Baseline}
    {aliases : Aliases} {cancelled : Bool} {r : ScanReport}
    (ran : engine.MayReturn units baseline aliases cancelled (.ok r)) (complete : r.complete = true)
    (rootPath : String) :
    ∃ b r' records, r.toBaseline rootPath = .ok b ∧
      engine.Ends units' (some b) [] false (.ok r') ∧ r.graph.Reorders r'.graph ∧
      r'.classifications = r.classifications ∧ r'.changes = some records ∧
      (∀ c, c ∈ records ↔ ∃ s ∈ r.graph.symbols, ∃ t ∈ r'.graph.symbols, s.id = t.id ∧
        ¬s.KeepsOverloads t ∧
          Comparison.reordering r.classifications r'.classifications s t = c) ∧
      (records = [] ↔ ∀ s ∈ r.graph.symbols, ∀ t ∈ r'.graph.symbols, s.id = t.id →
        s.KeepsOverloads t) := by
  obtain ⟨-, first, built, reported⟩ := ran.exists_build
  obtain ⟨cs, fs, summary, assessed, -, rfl⟩ := report_ok_iff.mp reported
  let report := engine.reportOf first cs fs summary
  obtain ⟨r', records, ran', graphs, same, told, mem⟩ :=
    run_of_reorders customized.ofCatalog related (Build.inOrder_of_complete built complete) complete
      assessed (report.readable_capture rootPath) rfl (Classification.agree_refl cs)
  refine ⟨_, r', records, report.toBaseline_of_complete complete rootPath, ran', graphs, same, told,
    ?_, ?_⟩
  · rw [same]
    exact mem
  · rw [List.eq_nil_iff_forall_not_mem]
    constructor
    · intro none_told s hs t ht together
      by_contra reordered
      exact none_told _ ((mem _).mpr ⟨s, hs, t, ht, together, reordered, rfl⟩)
    · intro keeps c hc
      obtain ⟨s, hs, t, ht, together, reordered, -⟩ := (mem c).mp hc
      exact reordered (keeps s hs t ht together)

def cart (fields : List FieldDeclaration) (methods : List MethodDeclaration) : SourceUnit :=
  ⟨"cart.java", "java", .declared [{ name := "Cart", fields, methods }]⟩

theorem cart_reorders {fields fields' : List FieldDeclaration}
    {methods methods' : List MethodDeclaration} (same : FieldDeclaration.Reorders fields fields')
    (perm : methods.Perm methods') :
    List.Forall₂ SourceUnit.Reorders [cart fields methods] [cart fields' methods'] :=
  .cons ⟨rfl, rfl, .declared (.cons ⟨rfl, rfl, rfl, same, perm, rfl, rfl, rfl⟩ .nil)⟩ .nil

section Cart

variable (fields : List FieldDeclaration) (methods : List MethodDeclaration)

theorem yield?_cart : (cart fields methods).yield? = some (.part
    ⟨"cart.java", [(cart fields methods).symbolOf { name := "Cart", fields, methods }]⟩) := by
  have named : Text.isBlankText "Cart" = false := by decide
  simp [cart, SourceUnit.yield?, SourceUnit.symbolsOf, named]

theorem mayReturn_cart : ∃ b cs fs, Build.inOrder {} [cart fields methods] false = .ok b ∧
    b.complete = true ∧ (standard {}).assess b.graph = .ok (cs, fs) ∧
    (standard {}).MayReturn [cart fields methods] none [] false
      (.ok ((standard {}).reportOf b cs fs none)) ∧
    ∀ s, s ∈ b.graph.symbols ↔
      s = (cart fields methods).symbolOf { name := "Cart", fields, methods } := by
  have obeys : (cart fields methods).extraction ≠ .cancelling := by simp [cart]
  have symbols : (cart fields methods).symbols =
      [(cart fields methods).symbolOf { name := "Cart", fields, methods }] := by
    simp only [SourceUnit.symbols, SourceUnit.part?, yield?_cart]
    rfl
  obtain ⟨b, built, -, complete⟩ := Build.inOrder_holds {} [cart fields methods]
  obtain ⟨gives, completes, -⟩ := Harvest.ofUnits_served ({} : ScanConfig).unitTimeout 3 [] obeys
  obtain ⟨cs, fs, assessed⟩ := assess_standard {} _ b.graph
  have short : Build.longestWait < ({} : ScanConfig).pollInterval ↔ False := by decide
  refine ⟨b, cs, fs, built, complete.trans completes, assessed,
    mayReturn_of_short (standard {}) (by simp [Build.overdraws, standard, short]) built
      (runOn_eq_of_assess [] readable_none assessed), fun s => ?_⟩
  have extracted : (Harvest.ofUnits ({} : ScanConfig).unitTimeout
      ({} : ScanConfig).maxWorkers.toNat [cart fields methods]).symbols =
        [(cart fields methods).symbolOf { name := "Cart", fields, methods }] :=
    gives.trans (symbols ▸ List.append_nil _)
  rw [Build.mem_symbols_iff (Build.inOrder_eq_ofHarvest built), extracted, List.mem_singleton]
  rw [extracted]
  exact List.nodup_singleton _

end Cart

/-- Two overloads with signatures of their own and two fields, each in both orders. -/
theorem rescan_of_swapped_cart :
    let price : FieldDeclaration := { name := "price", declaredType := some "int" }
    let size : FieldDeclaration := { name := "size", declaredType := some "int" }
    let addOne : MethodDeclaration := { name := "add", signature := "add(Item)" }
    let addMany : MethodDeclaration := { name := "add", signature := "add(Item, int)" }
    ∃ r b r', (standard {}).run [cart [price, size] [addOne, addMany]] none [] false = .ok r ∧
      r.complete = true ∧ r.toBaseline "project" = .ok b ∧
      (standard {}).run [cart [size, price] [addMany, addOne]] (some b) [] false = .ok r' ∧
      r'.changes = some [] := by
  intro price size addOne addMany
  obtain ⟨build, cs, fs, -, complete, -, ran, alone⟩ :=
    mayReturn_cart [price, size] [addOne, addMany]
  have fields : FieldDeclaration.Reorders [price, size] [size, price] :=
    FieldDeclaration.reorders_of_nodup (.swap size price []) (by decide)
  have methods : [addOne, addMany].Perm [addMany, addOne] := .swap addMany addOne []
  obtain ⟨b, r', records, made, ran', graphs, -, told, -, none_iff⟩ :=
    rescan_tells_reordered_overloads (standard {}) .standard (cart_reorders fields methods) ran
      complete "project"
  refine ⟨_, b, r', ran.run_eq (by decide), complete, made, ran'.run_eq (by decide), ?_⟩
  rw [told, none_iff.mpr]
  intro s hs t ht same
  apply Symbol.keepsOverloads_of_distinct (graphs.of_id_eq hs ht same).methods
  rw [(alone s).mp hs]
  decide

/-- Two overloads without signatures, told apart by what they return, are told of in another
order. -/
theorem swapped_unsigned_overloads_are_told :
    let inCents : MethodDeclaration := { name := "total", returnType := some "int" }
    let asMoney : MethodDeclaration := { name := "total", returnType := some "Money" }
    List.Forall₂ SourceUnit.Reorders [cart [] [inCents, asMoney]] [cart [] [asMoney, inCents]] ∧
      ∃ r b r', (standard {}).run [cart [] [inCents, asMoney]] none [] false = .ok r ∧
        r.complete = true ∧ r.toBaseline "project" = .ok b ∧
        (standard {}).run [cart [] [asMoney, inCents]] (some b) [] false = .ok r' ∧
        r'.changes ≠ some [] := by
  intro inCents asMoney
  have related := cart_reorders (FieldDeclaration.reorders_of_nodup .nil List.nodup_nil)
    (List.Perm.swap asMoney inCents [])
  refine ⟨related, ?_⟩
  obtain ⟨build, cs, fs, built, complete, assessed, ran, alone⟩ :=
    mayReturn_cart [] [inCents, asMoney]
  have catalog : (standard {}).registry.OfCatalog := RuleRegistry.ofCatalog_standard
  let r := (standard {}).reportOf build cs fs none
  obtain ⟨r', records, ran', graphs, -, told, mem⟩ :=
    run_of_reorders catalog related built complete assessed (r.readable_capture "project") rfl
      (Classification.agree_refl cs)
  have again := ran'.run_eq (by decide)
  refine ⟨r, _, r', ran.run_eq (by decide), complete,
    r.toBaseline_of_complete complete "project", again, ?_⟩
  obtain ⟨second, _, _, built', -, -, -, alone'⟩ := mayReturn_cart [] [asMoney, inCents]
  have came := mayReturn_run (standard {}) [cart [] [asMoney, inCents]]
    (some (r.capture "project")) [] false
  rw [again] at came
  obtain ⟨-, third, built'', reported⟩ := came.exists_build
  obtain rfl : second = third := Except.ok.inj (built'.symm.trans built'')
  obtain ⟨_, _, _, -, -, rfl⟩ := report_ok_iff.mp reported
  let s := (cart [] [inCents, asMoney]).symbolOf { name := "Cart", methods := [inCents, asMoney] }
  let t := (cart [] [asMoney, inCents]).symbolOf { name := "Cart", methods := [asMoney, inCents] }
  have reordered : ¬s.KeepsOverloads t := fun keeps => absurd (keeps "total" "") (by decide)
  have recorded := (mem _).mpr ⟨s, (alone s).mpr rfl, t, (alone' t).mpr rfl, rfl, reordered, rfl⟩
  rw [told]
  intro none_told
  rw [Option.some.inj none_told] at recorded
  cases recorded

end ScanEngine

end TacticalDesign
