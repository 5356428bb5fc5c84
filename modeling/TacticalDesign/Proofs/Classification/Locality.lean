import Mathlib.Data.List.Find
import TacticalDesign.Proofs.Classification.Evidence
import TacticalDesign.Proofs.Graph.Growth
/-!
# Rules read what is linked to a symbol

A built-in rule scores a symbol by its own declaration, by the edges at it, by what its names mean
and by the repositories of the graph. So the symbols of a graph are classified in a larger one as
they are in the graph, as long as nothing of this changes.
-/

namespace TacticalDesign

theorem isEmpty_congr {α : Type} {a b : List α} (same : ∀ x, x ∈ a ↔ x ∈ b) :
    a.isEmpty = b.isEmpty := by
  apply Bool.eq_iff_iff.mpr
  rw [List.isEmpty_iff, List.isEmpty_iff, List.eq_nil_iff_forall_not_mem,
    List.eq_nil_iff_forall_not_mem]
  exact forall_congr' fun x => not_congr (same x)

namespace SymbolGraph

namespace Frame

variable {g g' : SymbolGraph} {s : Symbol} {kind : RelationshipKind}

/-! ## Edges at a symbol -/

theorem mem_incomingOf_iff (frame : g.Frame g') (hs : s ∈ g.symbols) (e : Relationship) :
    e ∈ g'.incomingOf s.id kind ↔ e ∈ g.incomingOf s.id kind := by
  simp only [incomingOf, incoming, List.mem_filter, beq_iff_eq, and_assoc]
  apply and_congr_left
  rintro ⟨target, -⟩
  exact frame.edges e (Or.inr (target ▸ mem_ids_of_mem hs))

theorem mem_outgoingOf_iff (frame : g.Frame g') (hs : s ∈ g.symbols) (e : Relationship) :
    e ∈ g'.outgoingOf s.id kind ↔ e ∈ g.outgoingOf s.id kind := by
  simp only [outgoingOf, outgoing, List.mem_filter, beq_iff_eq, and_assoc]
  apply and_congr_left
  rintro ⟨source, -⟩
  exact frame.edges e (Or.inl (source ▸ mem_ids_of_mem hs))

theorem isEmpty_incomingOf (frame : g.Frame g') (hs : s ∈ g.symbols) :
    (g'.incomingOf s.id kind).isEmpty = (g.incomingOf s.id kind).isEmpty :=
  isEmpty_congr (frame.mem_incomingOf_iff hs)

theorem isEmpty_outgoingOf (frame : g.Frame g') (hs : s ∈ g.symbols) :
    (g'.outgoingOf s.id kind).isEmpty = (g.outgoingOf s.id kind).isEmpty :=
  isEmpty_congr (frame.mem_outgoingOf_iff hs)

theorem isAggregateShaped_eq (frame : g.Frame g') (hs : s ∈ g.symbols) :
    g'.isAggregateShaped s = g.isAggregateShaped s := by
  rw [isAggregateShaped, isAggregateShaped, frame.isEmpty_incomingOf hs,
    frame.isEmpty_outgoingOf hs]

/-! ## What a repository manages -/

theorem methodTargets_eq (frame : g.Frame g') (hs : s ∈ g.symbols) :
    g'.methodTargets s = g.methodTargets s := by
  unfold methodTargets
  apply List.flatMap_congr
  intro m hm
  rw [frame.methodReferences_eq hs (List.mem_of_mem_filter hm)]
  apply List.filter_congr
  intro id hid
  rw [frame.get?_eq (mem_ids_of_methodReferences hid)]

theorem nameTargets_eq (frame : g.Frame g') (hs : s ∈ g.symbols) :
    g'.nameTargets s = g.nameTargets s := by
  unfold nameTargets
  congr 1
  apply List.filterMap_congr
  intro suffix hsuffix
  cases before : nameBefore? suffix s.name with
  | none => rfl
  | some name =>
      have sought : name ∈ s.soughtNames :=
        List.mem_append_right _ (List.mem_filterMap.mpr ⟨suffix, hsuffix, before⟩)
      exact frame.lookup s hs name sought

theorem repositoryTargets_eq (frame : g.Frame g') (hs : s ∈ g.symbols) :
    g'.repositoryTargets s = g.repositoryTargets s := by
  rw [repositoryTargets, repositoryTargets, frame.methodTargets_eq hs, frame.nameTargets_eq hs]

end Frame

end SymbolGraph

/-! ## Rules -/

namespace RuleCatalog

/-- The repositories of the larger graph are those of the graph, and each manages what it did. -/
theorem managedByRepository_eq {g g' : SymbolGraph} (frame : g.Frame g') (s : Symbol) :
    managedByRepository s g' = managedByRepository s g := by
  unfold managedByRepository
  congr 1
  apply Bool.eq_iff_iff.mpr
  simp only [List.any_eq_true, Bool.and_eq_true, decide_eq_true_eq]
  constructor
  · rintro ⟨other, ho, ⟨apart, shaped⟩, managed⟩
    have old := frame.repositories other ho shaped
    rw [frame.repositoryTargets_eq old] at managed
    exact ⟨other, old, ⟨apart, shaped⟩, managed⟩
  · rintro ⟨other, ho, ⟨apart, shaped⟩, managed⟩
    rw [← frame.repositoryTargets_eq ho] at managed
    exact ⟨other, (frame.mem_symbols_iff.mp ho).1, ⟨apart, shaped⟩, managed⟩

section Local

variable {g g' : SymbolGraph} {s : Symbol} (frame : g.Frame g') (hs : s ∈ g.symbols)

include frame hs

theorem ownsChildrenWithBehaviour_eq :
    ownsChildrenWithBehaviour s g' = ownsChildrenWithBehaviour s g := by
  rw [ownsChildrenWithBehaviour, ownsChildrenWithBehaviour, frame.isEmpty_outgoingOf hs]

theorem unownedWithBehaviour_eq : unownedWithBehaviour s g' = unownedWithBehaviour s g := by
  rw [unownedWithBehaviour, unownedWithBehaviour, frame.isAggregateShaped_eq hs]

theorem referencedByIdentity_eq : referencedByIdentity s g' = referencedByIdentity s g := by
  have sources : textSet ((g'.incomingOf s.id .identity).map (·.sourceId)) =
      textSet ((g.incomingOf s.id .identity).map (·.sourceId)) := by
    apply textSet_congr
    intro id
    simp only [List.mem_map, frame.mem_incomingOf_iff hs]
  rw [referencedByIdentity, referencedByIdentity, frame.isEmpty_incomingOf hs, sources]

theorem composedIdentity_eq : composedIdentity s g' = composedIdentity s g := by
  rw [composedIdentity, composedIdentity, frame.isEmpty_incomingOf hs]

theorem spansAggregates_eq : spansAggregates s g' = spansAggregates s g := by
  have behaving : ∀ m ∈ s.behavioralMethods, m ∈ s.methods :=
    fun m hm => List.mem_of_mem_filter (List.mem_of_mem_filter hm)
  have references : s.behavioralMethods.flatMap (g'.methodReferences s) =
      s.behavioralMethods.flatMap (g.methodReferences s) :=
    List.flatMap_congr fun m hm => frame.methodReferences_eq hs (behaving m hm)
  have aggregates : ∀ id ∈ s.behavioralMethods.flatMap (g.methodReferences s),
      (g'.get? id).any g'.isAggregateShaped = (g.get? id).any g.isAggregateShaped := by
    intro id hid
    obtain ⟨m, -, hm⟩ := List.mem_flatMap.mp hid
    have inside := SymbolGraph.mem_ids_of_methodReferences hm
    obtain ⟨t, ht, rfl⟩ := List.mem_map.mp inside
    rw [frame.get?_eq inside, SymbolGraph.get?_iff.mpr ⟨ht, rfl⟩]
    exact frame.isAggregateShaped_eq ht
  unfold spansAggregates
  simp only [references, List.filter_congr aggregates]

theorem collectionLikeInterface_eq :
    collectionLikeInterface s g' = collectionLikeInterface s g := by
  rw [collectionLikeInterface, collectionLikeInterface, frame.repositoryTargets_eq hs]

theorem outboundInterface_eq : outboundInterface s g' = outboundInterface s g := by
  rw [outboundInterface, outboundInterface, frame.repositoryTargets_eq hs]

theorem createsDomainObjects_eq : createsDomainObjects s g' = createsDomainObjects s g := by
  unfold createsDomainObjects
  congr 1
  apply Bool.eq_iff_iff.mpr
  simp only [List.any_eq_true]
  apply exists_congr
  intro m
  apply and_congr_right
  intro hm
  have returned : m.returnType ∈ s.declaredTypes := Symbol.methodType_mem hm (by simp)
  rw [frame.resolveType_eq hs returned]

theorem predicate_eq : ∀ r ∈ rules, r.predicate s g' = r.predicate s g := by
  simp only [rules, List.forall_mem_cons, flag, graded, ownsChildrenWithBehaviour_eq frame hs,
    unownedWithBehaviour_eq frame hs, managedByRepository_eq frame s,
    referencedByIdentity_eq frame hs, composedIdentity_eq frame hs, spansAggregates_eq frame hs,
    collectionLikeInterface_eq frame hs, outboundInterface_eq frame hs,
    createsDomainObjects_eq frame hs, List.not_mem_nil, false_imp_iff, implies_true]
  -- The other rules do not read the graph.
  and_intros <;> trivial

theorem score_eq {r : Rule} (hr : r ∈ rules) : r.score s g' = r.score s g := by
  rw [Rule.score, Rule.score, predicate_eq frame hs r hr]

end Local

end RuleCatalog

/-! ## Classifications -/

theorem Ballot.cast_congr {g g' : SymbolGraph} {s t : Symbol} {rules : List Rule}
    (scores : ∀ r ∈ rules, r.score t g' = r.score s g) : cast t g' rules = cast s g rules := by
  induction rules with
  | nil => rfl
  | cons r rest ih =>
      rw [cast, cast, scores r List.mem_cons_self,
        ih fun q hq => scores q (List.mem_cons_of_mem r hq)]

namespace Classification

variable {g g' : SymbolGraph} {config : ScanConfig} {registry : RuleRegistry} {s : Symbol}

theorem ofSymbol_eq (frame : g.Frame g') (catalog : registry.OfCatalog) (hs : s ∈ g.symbols) :
    ofSymbol registry config g' s = ofSymbol registry config g s := by
  have ballots : Ballot.cast s g' registry.rules = Ballot.cast s g registry.rules := by
    apply Ballot.cast_congr
    intro r hr
    obtain ⟨q, hq, reweighs⟩ := catalog.rules r hr
    rw [reweighs.score_eq, reweighs.score_eq, RuleCatalog.score_eq frame hs hq]
  rw [ofSymbol, ofSymbol, Verdict.of, Verdict.of, ballots]

theorem ofSymbols_filter (keep : String → Bool) {symbols : List Symbol} {cs : List Classification}
    (same : ∀ s ∈ symbols, keep s.id = true →
      ofSymbol registry config g' s = ofSymbol registry config g s)
    (h : ofSymbols registry config g' symbols = .ok cs) :
    ofSymbols registry config g (symbols.filter fun s => keep s.id) =
      .ok (cs.filter fun c => keep c.symbolId) := by
  rw [ofSymbols_eq_mapM] at h ⊢
  exact mapM_filter (fun s hs kept => (same s hs kept).symm)
    (fun made => congrArg keep (symbolId_of_ofSymbol made)) h

theorem explainAll_filter (keep : String → Bool) {cs es : List Classification}
    (h : explainAll registry cs = .ok es) :
    explainAll registry (cs.filter fun c => keep c.symbolId) =
      .ok (es.filter fun e => keep e.symbolId) := by
  rw [explainAll_eq_mapM] at h ⊢
  exact mapM_filter (fun _ _ _ => rfl) (fun made => congrArg keep (symbolId_of_explain made)) h

theorem of?_filter (keep : String → Bool) {cs : List Classification} {id : String}
    (kept : keep id = true) : of? (cs.filter fun c => keep c.symbolId) id = of? cs id := by
  rw [of?, of?, ← List.filter_reverse, List.find?_filter]
  apply List.find?_congr
  intro c _
  by_cases about : c.symbolId = id
  · simp [about, kept]
  · simp [about]

end Classification

end TacticalDesign
