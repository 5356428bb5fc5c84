import Mathlib.Data.List.Find
import TacticalDesign.Proofs.Graph.Lookup
import TacticalDesign.Proofs.Graph.Shrinking
import TacticalDesign.RuleCatalog
/-!
# A graph inside a larger one

Symbols may come to a graph without anything changing for those that are there: no name that these
look up means one of the new symbols, no field of theirs refers to one by identity, and no new
symbol has an edge to them. Then names mean what they meant, and the edges at the old symbols are
the same.
-/

namespace TacticalDesign

theorem firstPassing_filter_of_passing {α : Type} {tests : List (α → Bool)} {items : List α}
    {keep : α → Bool} (kept : ∀ a ∈ items, ∀ test ∈ tests, test a = true → keep a = true) :
    firstPassing tests (items.filter keep) = firstPassing tests items := by
  induction tests with
  | nil => rfl
  | cons test tests ih =>
      have first : (items.filter keep).find? test = items.find? test := by
        rw [List.find?_filter]
        apply List.find?_congr
        intro a ha
        have passing := kept a ha test List.mem_cons_self
        cases passes : test a
        · simp
        · simp [passing passes]
      rw [firstPassing_cons, firstPassing_cons, first,
        ih fun a ha later hl => kept a ha later (List.mem_cons_of_mem test hl)]

namespace Symbol

def declaredTypes (s : Symbol) : List (Option String) :=
  s.fields.map (·.declaredType) ++
    s.methods.flatMap fun m => m.parameterTypes.map some ++ [m.returnType]

/-- The names that are looked up from the point of view of a symbol: those that its types mention,
its bases, and what its name says that it is a repository of. -/
def soughtNames (s : Symbol) : List String :=
  s.declaredTypes.flatMap (fun type => (TypeReference.of type).names) ++ s.bases ++
    ["Repository", "Repo"].filterMap fun suffix => SymbolGraph.nameBefore? suffix s.name

theorem fieldType_mem {s : Symbol} {field : FieldDeclaration} (h : field ∈ s.fields) :
    field.declaredType ∈ s.declaredTypes :=
  List.mem_append_left _ (List.mem_map_of_mem h)

theorem methodType_mem {s : Symbol} {m : MethodDeclaration} (h : m ∈ s.methods)
    {type : Option String} (ht : type ∈ m.parameterTypes.map some ++ [m.returnType]) :
    type ∈ s.declaredTypes :=
  List.mem_append_right _ (List.mem_flatMap.mpr ⟨m, h, ht⟩)

end Symbol

namespace SymbolGraph

variable {g g' : SymbolGraph} {extra : List Symbol} {s t : Symbol}

/-- Symbols that come to a graph, giving a larger one, without touching those that are there. -/
structure Unrelated (g g' : SymbolGraph) (extra : List Symbol) : Prop where
  fresh : ∀ x ∈ extra, x.id ∉ g.ids
  unsought : ∀ s ∈ g.symbols, ∀ name ∈ s.soughtNames, ∀ x ∈ extra,
    name ≠ x.qualifiedName ∧ simpleName name ≠ x.name
  unreferenced : ∀ s ∈ g.symbols, ∀ field ∈ s.fields, ∀ x ∈ extra,
    s.identityReferenceTarget field ≠ some (normalizeName x.name)
  aloof : ∀ e ∈ g'.relationships, ∀ x ∈ extra, e.sourceId = x.id → e.targetId ∉ g.ids
  no_repository : ∀ x ∈ extra, RuleCatalog.isRepositoryShaped x = false

structure Grows (g g' : SymbolGraph) (extra : List Symbol) : Prop where
  kept : g.symbols = g'.symbols.filter fun s => s.id ∈ g.ids
  others : ∀ s ∈ g'.symbols, s.id ∉ g.ids → s ∈ extra
  derived : g.Derived
  derived' : g'.Derived

/-- The symbols of a graph are in a larger one and find there what they find in the graph. -/
structure SameNames (g g' : SymbolGraph) : Prop where
  kept : g.symbols = g'.symbols.filter fun s => s.id ∈ g.ids
  lookup : ∀ s ∈ g.symbols, ∀ name ∈ s.soughtNames,
    g'.lookup name (some s) = g.lookup name (some s)
  identity : ∀ s ∈ g.symbols, ∀ field ∈ s.fields, ∀ name,
    s.identityReferenceTarget field = some name →
      g'.symbolOfNormalName name s = g.symbolOfNormalName name s

/-! ## Names -/

theorem Grows.sameNames (grows : g.Grows g' extra) (unrelated : g.Unrelated g' extra) :
    g.SameNames g' where
  kept := grows.kept
  lookup := by
    intro s hs name sought
    rw [lookup, lookup, lookupSymbol_eq, lookupSymbol_eq, grows.kept]
    congr 1
    symm
    apply firstPassing_filter_of_passing
    intro a ha test htest passes
    -- A symbol that is not kept is a new one, and the name means none of these.
    by_contra dropped
    have apart := unrelated.unsought s hs name sought a (grows.others a ha (by simpa using dropped))
    simp only [nearTests, List.mem_cons, List.not_mem_nil, or_false] at htest
    rcases htest with rfl | rfl | rfl | rfl
    · exact apart.1 (eq_of_beq passes).symm
    · exact apart.2 (eq_of_beq (Bool.and_eq_true_iff.mp passes).1).symm
    · exact apart.2 (eq_of_beq (Bool.and_eq_true_iff.mp passes).1).symm
    · exact apart.2 (eq_of_beq passes).symm
  identity := by
    intro s hs field hfield name refers
    rw [symbolOfNormalName_eq, symbolOfNormalName_eq, grows.kept]
    symm
    apply firstPassing_filter_of_passing
    intro a ha test htest passes
    by_contra dropped
    have apart := unrelated.unreferenced s hs field hfield a
      (grows.others a ha (by simpa using dropped))
    have named : (normalizeName a.name == name && a.id != s.id) = true := by
      simp only [nearTests, List.mem_cons, List.not_mem_nil, or_false] at htest
      rcases htest with rfl | rfl | rfl
      · exact (Bool.and_eq_true_iff.mp passes).1
      · exact (Bool.and_eq_true_iff.mp passes).1
      · exact passes
    apply apart
    rw [refers, eq_of_beq (Bool.and_eq_true_iff.mp named).1]

namespace SameNames

theorem mem_symbols_iff (same : g.SameNames g') :
    s ∈ g.symbols ↔ s ∈ g'.symbols ∧ s.id ∈ g.ids := by
  have kept : s ∈ g.symbols ↔ s ∈ g'.symbols.filter fun s => s.id ∈ g.ids := by rw [← same.kept]
  rw [kept, List.mem_filter, decide_eq_true_eq]

theorem get?_eq (same : g.SameNames g') {id : String} (inside : id ∈ g.ids) :
    g'.get? id = g.get? id :=
  (get?_of_filter same.kept inside).symm

theorem resolveType_eq (same : g.SameNames g') (hs : s ∈ g.symbols) {type : Option String}
    (ht : type ∈ s.declaredTypes) : g'.resolveType s type = g.resolveType s type := by
  unfold resolveType
  congr 1
  apply List.filterMap_congr
  intro name hname
  have sought : name ∈ s.soughtNames :=
    List.mem_append_left _ (List.mem_append_left _ (List.mem_flatMap.mpr ⟨type, ht, hname⟩))
  rw [same.lookup s hs name sought]

theorem methodReferences_eq (same : g.SameNames g') (hs : s ∈ g.symbols) {m : MethodDeclaration}
    (hm : m ∈ s.methods) : g'.methodReferences s m = g.methodReferences s m := by
  unfold methodReferences
  congr 1
  apply List.flatMap_congr
  intro type ht
  exact same.resolveType_eq hs (Symbol.methodType_mem hm ht)

/-! ## Edges -/

theorem fieldEdges_eq (same : g.SameNames g') (hs : s ∈ g.symbols) {field : FieldDeclaration}
    (hf : field ∈ s.fields) : g'.fieldEdges s field = g.fieldEdges s field := by
  have identity : g'.identityEdge s field = g.identityEdge s field := by
    unfold identityEdge
    cases refers : s.identityReferenceTarget field with
    | none => rfl
    | some name => rw [Option.bind_some, Option.bind_some, same.identity s hs field hf name refers]
  have types : g'.typeEdges s field = g.typeEdges s field := by
    unfold typeEdges
    rw [same.resolveType_eq hs (Symbol.fieldType_mem hf)]
    apply List.map_congr_left
    intro id hid
    rw [same.get?_eq (mem_ids_of_resolveType hid)]
  rw [fieldEdges, fieldEdges, identity, types]

theorem symbolEdges_eq (same : g.SameNames g') (hs : s ∈ g.symbols) :
    g'.symbolEdges s = g.symbolEdges s := by
  have fields : s.fields.flatMap (g'.fieldEdges s) = s.fields.flatMap (g.fieldEdges s) :=
    List.flatMap_congr fun field hf => same.fieldEdges_eq hs hf
  have bases : s.bases.filterMap (g'.baseEdge s) = s.bases.filterMap (g.baseEdge s) := by
    apply List.filterMap_congr
    intro base hbase
    have sought : base ∈ s.soughtNames :=
      List.mem_append_left _ (List.mem_append_right _ hbase)
    rw [baseEdge, baseEdge, same.lookup s hs base sought]
  rw [symbolEdges, symbolEdges, fields, bases]

end SameNames

structure Frame (g g' : SymbolGraph) : Prop extends SameNames g g' where
  edges : ∀ e : Relationship, e.sourceId ∈ g.ids ∨ e.targetId ∈ g.ids →
    (e ∈ g'.relationships ↔ e ∈ g.relationships)
  repositories : ∀ s ∈ g'.symbols, RuleCatalog.isRepositoryShaped s = true → s ∈ g.symbols

theorem Grows.frame (grows : g.Grows g' extra) (unrelated : g.Unrelated g' extra) :
    g.Frame g' where
  toSameNames := grows.sameNames unrelated
  edges := by
    have same := grows.sameNames unrelated
    intro e touches
    constructor
    · intro he
      obtain ⟨s, hs, hse⟩ := List.mem_flatMap.mp ((grows.derived' e).mp he)
      have source := sourceId_of_mem_symbolEdges hse
      by_cases old : s.id ∈ g.ids
      · have hs' : s ∈ g.symbols := same.mem_symbols_iff.mpr ⟨hs, old⟩
        rw [same.symbolEdges_eq hs'] at hse
        exact (grows.derived e).mpr (List.mem_flatMap.mpr ⟨s, hs', hse⟩)
      · have apart := unrelated.aloof e he s (grows.others s hs old) source
        rw [source] at touches
        exact absurd touches (not_or.mpr ⟨old, apart⟩)
    · intro he
      obtain ⟨s, hs, hse⟩ := List.mem_flatMap.mp ((grows.derived e).mp he)
      rw [← same.symbolEdges_eq hs] at hse
      exact (grows.derived' e).mpr
        (List.mem_flatMap.mpr ⟨s, (same.mem_symbols_iff.mp hs).1, hse⟩)
  repositories := by
    intro s hs shaped
    by_contra new
    have outside : s.id ∉ g.ids :=
      fun old => new ((grows.sameNames unrelated).mem_symbols_iff.mpr ⟨hs, old⟩)
    rw [unrelated.no_repository s (grows.others s hs outside)] at shaped
    cases shaped

end SymbolGraph

end TacticalDesign
