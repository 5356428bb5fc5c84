import TacticalDesign.Proofs.Graph.Assembly
/-!
# Edges in a smaller graph

A name means the first symbol that passes the first of some tests, so it goes on meaning this symbol
when other symbols are dropped. Hence the edges between the symbols of a smaller graph that the
larger one has are edges of the smaller one as well.
-/

namespace TacticalDesign

def firstPassing {α : Type} (tests : List (α → Bool)) (items : List α) : Option α :=
  tests.findSome? fun test => items.find? test

section FirstPassing

variable {α : Type} {tests : List (α → Bool)} {items : List α} {a : α}

@[simp]
theorem firstPassing_nil : firstPassing [] items = none := rfl

theorem firstPassing_cons {test : α → Bool} :
    firstPassing (test :: tests) items = (items.find? test).or (firstPassing tests items) := by
  rw [firstPassing, List.findSome?_cons]
  cases items.find? test <;> rfl

end FirstPassing

namespace SymbolGraph

variable {g g' : SymbolGraph} {keep : Symbol → Bool} {s t : Symbol}

/-! ## What names mean -/

def nearTests (candidate : Symbol → Bool) (near : Symbol) : List (Symbol → Bool) :=
  [fun a => candidate a && a.originPath == near.originPath,
    fun a => candidate a && a.nameSpace == near.nameSpace, candidate]

theorem preferNear_some (near : Symbol) (symbols : List Symbol) (candidate : Symbol → Bool) :
    preferNear (some near) (symbols.filter candidate) =
      firstPassing (nearTests candidate near) symbols := by
  have uniform : ∀ l : List Symbol, preferNear (some near) l =
      (l.find? (·.originPath == near.originPath)).or
        ((l.find? (·.nameSpace == near.nameSpace)).or l.head?) := by
    intro l
    match l with
    | [] => rfl
    | [a] =>
        cases hp : a.originPath == near.originPath <;> cases hn : a.nameSpace == near.nameSpace <;>
          simp [preferNear, hp, hn]
    | _ :: _ :: _ => rfl
  rw [uniform, List.find?_filter, List.find?_filter, List.head?_filter]
  simp only [nearTests, firstPassing_cons, firstPassing_nil, Option.or_none, Bool.decide_and,
    Bool.decide_eq_true]

theorem symbolOfNormalName_eq (g : SymbolGraph) (name : String) (near : Symbol) :
    g.symbolOfNormalName name near =
      firstPassing (nearTests (fun a => normalizeName a.name == name && a.id != near.id) near)
        g.symbols :=
  preferNear_some near g.symbols _

theorem lookupSymbol_eq (g : SymbolGraph) (name : String) (near : Symbol) :
    g.lookupSymbol name (some near) =
      firstPassing ((·.qualifiedName == name) :: nearTests (·.name == simpleName name) near)
        g.symbols := by
  rw [lookupSymbol, preferNear_some, firstPassing_cons]

theorem get?_of_filter (part : g'.symbols = g.symbols.filter keep) {id : String}
    (inside : id ∈ g'.ids) : g'.get? id = g.get? id := by
  obtain ⟨t, ht, rfl⟩ := List.mem_map.mp inside
  have ht' : t ∈ g.symbols := List.mem_of_mem_filter (part ▸ ht)
  rw [get?_iff.mpr ⟨ht, rfl⟩, get?_iff.mpr ⟨ht', rfl⟩]

theorem sourceId_of_mem_symbolEdges {e : Relationship} (h : e ∈ g.symbolEdges s) :
    e.sourceId = s.id := by
  unfold symbolEdges at h
  rcases List.mem_append.mp h with h | h
  · obtain ⟨field, -, hf⟩ := List.mem_flatMap.mp h
    unfold fieldEdges at hf
    split at hf
    · rename_i edge hedge
      obtain rfl := List.mem_singleton.mp hf
      obtain ⟨name, -, hn⟩ := Option.bind_eq_some_iff.mp hedge
      obtain ⟨target, -, rfl⟩ := Option.map_eq_some_iff.mp hn
      rfl
    · obtain ⟨id, -, rfl⟩ := List.mem_map.mp hf
      rfl
  · obtain ⟨base, -, hb⟩ := List.mem_filterMap.mp h
    obtain ⟨id, -, rfl⟩ := Option.map_eq_some_iff.mp hb
    rfl

/-! ## Graphs with all their edges -/

def Derived (g : SymbolGraph) : Prop := ∀ e, e ∈ g.relationships ↔ e ∈ g.derivedEdges

theorem derivedEdges_congr (same : g.symbols = g'.symbols) : g.derivedEdges = g'.derivedEdges := by
  obtain ⟨symbols, edges, ascend, inside⟩ := g
  obtain ⟨symbols', edges', ascend', inside'⟩ := g'
  obtain rfl : symbols = symbols' := same
  rfl

theorem derived_of_ofSymbols {symbols : List Symbol} (h : ofSymbols symbols = .ok g) :
    g.Derived := by
  have distinct := keepFirst_nodup [] symbols
  obtain ⟨arena, harena, hsymbols, -⟩ := @ofLists_ok _ [] distinct (by simp)
  have inside : ∀ e ∈ arena.derivedEdges,
      joins ((keepFirst [] symbols).map (·.id)) e = true := by
    intro e he
    simpa [joins, ids, hsymbols] using joins_of_mem_derivedEdges he
  obtain ⟨made, hmade, hmade_symbols, hmade_edges⟩ := ofLists_ok distinct inside
  have same : made = g := by
    have whole : ofSymbols symbols = .ok made := by simp only [ofSymbols, harena, hmade]
    exact Except.ok.inj (whole.symm.trans h)
  subst same
  intro e
  rw [hmade_edges, mem_sortEdges, derivedEdges_congr (hsymbols.trans hmade_symbols.symm)]

end SymbolGraph

end TacticalDesign
