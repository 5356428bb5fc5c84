import TacticalDesign.Proofs.Baseline.Records
import TacticalDesign.Proofs.Graph.Assembly
/-!
# Graphs and the edges at a symbol

The lists that a graph is made of matter only by what is in them: their order and repeated edges
leave no trace. The edges at a symbol can be filed beforehand, one after the other, under the id at
one of their ends. What is filed under an id are the edges of the graph that have it there, in the
order of all edges.
-/

namespace TacticalDesign

/-! ## Edges in order -/

theorem Relationship.Canonical.eq_of_key_eq {a b : Relationship} (ha : a.Canonical)
    (hb : b.Canonical) (same : a.key = b.key) : a = b := by
  simp only [key, List.cons.injEq, and_true] at same
  obtain ⟨source, target, kind, via, cardinality⟩ := same
  have same_kind : a.kind = b.kind := by rw [← ha.kind, ← hb.kind, kind]
  have same_cardinality : a.cardinality = b.cardinality := by
    rw [← ha.cardinality, ← hb.cardinality, cardinality]
  cases a
  cases b
  simp_all only

namespace SymbolGraph

variable {symbols : List Symbol} {edges : List Relationship} {g : SymbolGraph}

theorem nodup_sortEdges (canonical : ∀ e ∈ edges, e.Canonical) : (sortEdges edges).Nodup := by
  apply nodup_dropRepeats (List.pairwise_mergeSort
    (fun a b c => textsLe_trans a.key b.key c.key) (fun a b => textsLe_total a.key b.key) edges)
  -- Two edges that may stand in either order have one key.
  intro a ha b hb hab hba
  exact (canonical a (List.mem_mergeSort.mp ha)).eq_of_key_eq
    (canonical b (List.mem_mergeSort.mp hb)) (textsLe_antisymm hab hba)

theorem sortEdges_congr {edges' : List Relationship} (canonical : ∀ e ∈ edges, e.Canonical)
    (same : ∀ e, e ∈ edges' ↔ e ∈ edges) : sortEdges edges' = sortEdges edges := by
  have canonical' : ∀ e ∈ edges', e.Canonical := fun e he => canonical e ((same e).mp he)
  apply List.Perm.eq_of_pairwise _ (pairwise_sortEdges edges') (pairwise_sortEdges edges)
  · refine (List.perm_ext_iff_of_nodup (nodup_sortEdges canonical')
      (nodup_sortEdges canonical)).mpr fun e => ?_
    rw [mem_sortEdges, mem_sortEdges, same]
  · intro a b ha hb hab hba
    exact (canonical' a (mem_sortEdges.mp ha)).eq_of_key_eq (canonical b (mem_sortEdges.mp hb))
      (textsLe_antisymm hab hba)

/-! ## What makes a graph -/

/-- Lists are refused when two symbols share an id or an edge ends outside the symbols. -/
theorem ofLists_error_iff : (∃ error, ofLists symbols edges = .error error) ↔
    ¬(symbols.map (·.id)).Nodup ∨
      ∃ e ∈ edges, e.sourceId ∉ symbols.map (·.id) ∨ e.targetId ∉ symbols.map (·.id) := by
  constructor
  · rintro ⟨error, refused⟩
    by_contra fits
    simp only [not_or, not_not, not_exists, not_and] at fits
    obtain ⟨distinct, inside⟩ := fits
    obtain ⟨g, made, -⟩ := ofLists_ok distinct fun e he => by simpa [joins] using inside e he
    rw [made] at refused
    cases refused
  · intro unfit
    cases made : ofLists symbols edges with
    | error error => exact ⟨error, rfl⟩
    | ok g =>
        have ids : (g.symbols.map (·.id)).Perm (symbols.map (·.id)) :=
          (perm_of_ofLists made).map _
        rcases unfit with repeated | ⟨e, he, outside⟩
        · exact absurd (ids.nodup_iff.mp g.ids_nodup) repeated
        · have there : e ∈ g.relationships := by
            rw [(parts_of_ofLists made).2]
            exact mem_sortEdges.mpr he
          have inside := g.edges_inside e there
          rw [ids.mem_iff, ids.mem_iff] at inside
          rcases outside with outside | outside
          · exact absurd inside.1 outside
          · exact absurd inside.2 outside

theorem ofLists_of_repeated (repeated : ¬(symbols.map (·.id)).Nodup) (edges : List Relationship) :
    ofLists symbols edges = .error .duplicateIds := by
  have level : ¬(symbols.mergeSort fun a b => textLe a.id b.id).Pairwise
      fun a b => a.id < b.id := by
    intro ascend
    have nodup := nodup_of_ascend id (List.pairwise_map.mpr ascend)
    exact repeated (((List.mergeSort_perm symbols _).map (·.id)).nodup_iff.mp nodup)
  simp only [ofLists, dif_neg level]

theorem ofLists_perm {symbols' : List Symbol} (perm : symbols'.Perm symbols)
    (edges : List Relationship) : ofLists symbols' edges = ofLists symbols edges := by
  by_cases distinct : (symbols.map (·.id)).Nodup
  · simp only [ofLists, mergeSort_eq_of_perm Symbol.id perm distinct]
  · have repeated : ¬(symbols'.map (·.id)).Nodup :=
      fun nodup => distinct ((perm.map (·.id)).nodup_iff.mp nodup)
    rw [ofLists_of_repeated distinct, ofLists_of_repeated repeated]

end SymbolGraph

/-! ## Edges filed under one of their ends -/

/-- Edges under the ids at one of their ends, ids in the order of their first edge. -/
inductive EdgeIndex where
  | empty
  | entry (id : String) (filed : List Relationship) (rest : EdgeIndex)

namespace EdgeIndex

def edgesAt : EdgeIndex → String → List Relationship
  | empty, _ => []
  | entry key filed rest, id => if key = id then filed else rest.edgesAt id

def file (id : String) (e : Relationship) : EdgeIndex → EdgeIndex
  | empty => entry id [e] empty
  | entry key filed rest =>
    if key = id then entry key (filed ++ [e]) rest else entry key filed (rest.file id e)

def ofEdges (endpoint : Relationship → String) (edges : List Relationship) : EdgeIndex :=
  edges.foldl (fun index e => index.file (endpoint e) e) empty

theorem edgesAt_file (index : EdgeIndex) (key : String) (e : Relationship) (id : String) :
    (index.file key e).edgesAt id =
      if key = id then index.edgesAt id ++ [e] else index.edgesAt id := by
  induction index with
  | empty => simp [file, edgesAt]
  | entry first filed rest ih =>
      rw [file]
      split
      · rename_i here
        subst here
        rw [edgesAt, edgesAt]
        split <;> rfl
      · rename_i elsewhere
        rw [edgesAt, edgesAt, ih]
        split
        · rename_i found
          rw [if_neg fun same => elsewhere (found.trans same.symm)]
        · rfl

theorem edgesAt_foldl (endpoint : Relationship → String) (edges : List Relationship)
    (index : EdgeIndex) (id : String) :
    (edges.foldl (fun index e => index.file (endpoint e) e) index).edgesAt id =
      index.edgesAt id ++ edges.filter (endpoint · == id) := by
  induction edges generalizing index with
  | nil => simp
  | cons e rest ih =>
      rw [List.foldl_cons, ih, edgesAt_file, List.filter_cons]
      by_cases here : endpoint e = id <;> simp [here]

theorem edgesAt_ofEdges (endpoint : Relationship → String) (edges : List Relationship)
    (id : String) : (ofEdges endpoint edges).edgesAt id = edges.filter (endpoint · == id) := by
  rw [ofEdges, edgesAt_foldl, edgesAt, List.nil_append]

end EdgeIndex

namespace SymbolGraph

variable {symbols : List Symbol} {edges : List Relationship} {g : SymbolGraph}

/-- How the edges of a graph are read at an id: they are what is filed there, those of some edges
that end there, all or those of a kind, as far as there are, in the order of the graph. -/
structure ReadAt (g : SymbolGraph) (edges : List Relationship) (endpoint : Relationship → String)
    (all : String → List Relationship) (ofKind : String → RelationshipKind → List Relationship) :
    Prop where
  filed : ∀ id, all id = (EdgeIndex.ofEdges endpoint g.relationships).edgesAt id
  mem_all : ∀ id e, e ∈ all id ↔ e ∈ edges ∧ endpoint e = id
  mem_ofKind : ∀ id kind e, e ∈ ofKind id kind ↔ e ∈ edges ∧ endpoint e = id ∧ e.kind = kind
  all_ordered : ∀ id, (all id).Sublist g.relationships
  ofKind_ordered : ∀ id kind, (ofKind id kind).Sublist g.relationships

theorem readAt (same : ∀ e, e ∈ g.relationships ↔ e ∈ edges) (endpoint : Relationship → String) :
    g.ReadAt edges endpoint (fun id => g.relationships.filter (endpoint · == id))
      fun id kind => (g.relationships.filter (endpoint · == id)).filter (·.kind == kind) where
  filed := fun id => (EdgeIndex.edgesAt_ofEdges endpoint g.relationships id).symm
  mem_all := by simp [same]
  mem_ofKind := by simp [same, and_assoc, and_comm]
  all_ordered := fun _ => List.filter_sublist
  ofKind_ordered := fun _ _ => List.filter_sublist.trans List.filter_sublist

/-- Symbols and edges make a graph unless ids repeat or edges lead outside. In whatever order they
come, and however often an edge comes, they make the same, as far as a word stands for one kind and
one cardinality. The graph has the symbols by ascending ids and each edge once, and the edges that
leave or enter a symbol, all or those of a kind, are the ones that were given, in its order. -/
theorem ofLists_determined (canonical : ∀ e ∈ edges, e.Canonical) :
    ((∃ error, ofLists symbols edges = .error error) ↔
      ¬(symbols.map (·.id)).Nodup ∨
        ∃ e ∈ edges, e.sourceId ∉ symbols.map (·.id) ∨ e.targetId ∉ symbols.map (·.id)) ∧
    (∀ symbols' edges', symbols'.Perm symbols → (∀ e, e ∈ edges' ↔ e ∈ edges) →
      ofLists symbols' edges' = ofLists symbols edges) ∧
    ∀ g, ofLists symbols edges = .ok g →
      g.symbols.Perm symbols ∧ (g.symbols.Pairwise fun a b => a.id < b.id) ∧
      g.relationships.Nodup ∧ (∀ e, e ∈ g.relationships ↔ e ∈ edges) ∧
      (g.relationships.Pairwise fun a b => textsLe a.key b.key = true) ∧
      g.ReadAt edges (·.sourceId) g.outgoing g.outgoingOf ∧
      g.ReadAt edges (·.targetId) g.incoming g.incomingOf := by
  refine ⟨ofLists_error_iff, fun symbols' edges' perm same => ?_, fun g made => ?_⟩
  · rw [ofLists_perm perm]
    simp only [ofLists, sortEdges_congr canonical same]
  · obtain ⟨-, sorted⟩ := parts_of_ofLists made
    have same : ∀ e, e ∈ g.relationships ↔ e ∈ edges := fun e => by rw [sorted, mem_sortEdges]
    refine ⟨perm_of_ofLists made, g.symbols_ascend, ?_, same, ?_, readAt same _, readAt same _⟩
    · rw [sorted]
      exact nodup_sortEdges canonical
    · rw [sorted]
      exact pairwise_sortEdges edges

private def shopSymbol (name : String) : Symbol :=
  { id := symbolId "shop.py" ("shop." ++ name), name, qualifiedName := "shop." ++ name,
    nameSpace := "shop", kind := .classType, originPath := "shop.py", language := "python" }

private def shopEdges : List Relationship :=
  [{ sourceId := "shop.py::shop.Order", targetId := "shop.py::shop.Line", kind := .composition,
     cardinality := .many, via := "lines" },
   { sourceId := "shop.py::shop.Line", targetId := "shop.py::shop.Order", kind := .identity,
     via := "order_id" },
   { sourceId := "shop.py::shop.Order", targetId := "shop.py::shop.Line", kind := .reference,
     via := "first" }]

/-- The other way round, and with each edge given twice. -/
theorem ofLists_determined_twice :
    (∀ e ∈ shopEdges, e.Canonical) ∧
      ofLists [shopSymbol "Line", shopSymbol "Order"] (shopEdges.reverse ++ shopEdges) =
        ofLists [shopSymbol "Order", shopSymbol "Line"] shopEdges ∧
      ∃ g, ofLists [shopSymbol "Order", shopSymbol "Line"] shopEdges = .ok g ∧
        ∀ e, e ∈ g.incomingOf "shop.py::shop.Line" .composition ↔
          e ∈ shopEdges ∧ e.targetId = "shop.py::shop.Line" ∧ e.kind = .composition := by
  have canonical : ∀ e ∈ shopEdges, e.Canonical := by
    simp only [shopEdges, List.forall_mem_cons]
    exact ⟨⟨rfl, rfl⟩, ⟨rfl, rfl⟩, ⟨rfl, rfl⟩, by simp⟩
  obtain ⟨refused, same, reads⟩ :=
    @ofLists_determined [shopSymbol "Order", shopSymbol "Line"] shopEdges canonical
  refine ⟨canonical, same _ _ (.swap _ _ []) (by simp), ?_⟩
  cases made : ofLists [shopSymbol "Order", shopSymbol "Line"] shopEdges with
  | error error => exact absurd (refused.mp ⟨error, made⟩) (by decide)
  | ok g =>
      obtain ⟨-, -, -, -, -, -, entering⟩ := reads g made
      exact ⟨g, rfl, entering.mem_ofKind _ _⟩

end SymbolGraph

end TacticalDesign
