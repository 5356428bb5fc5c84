import TacticalDesign.Number.Decimal
import TacticalDesign.Ordering
import TacticalDesign.Symbol
import TacticalDesign.Text.Trim
/-!
# The symbol graph

Symbols in the order of their ids, and edges between them. A graph is made by `SymbolGraph.ofLists`,
which refuses repeated ids and edges that leave the graph.
-/

namespace TacticalDesign

structure SymbolGraph where
  symbols : List Symbol
  relationships : List Relationship
  symbols_ascend : symbols.Pairwise fun a b => a.id < b.id
  edges_inside : ∀ e ∈ relationships,
    e.sourceId ∈ symbols.map (·.id) ∧ e.targetId ∈ symbols.map (·.id)

inductive GraphError where
  | duplicateIds
  | endpointOutside (edge : Relationship)
  deriving DecidableEq, Repr

def GraphError.message : GraphError → String
  | duplicateIds => "SymbolGraph received duplicate symbol ids."
  | endpointOutside e =>
    "Relationship endpoint is not in the graph: " ++ e.sourceId ++ " -> " ++ e.targetId

namespace SymbolGraph

def empty : SymbolGraph := ⟨[], [], by simp, by simp⟩

instance : Inhabited SymbolGraph := ⟨empty⟩

/-- Whether both ends of an edge are among the ids. -/
def joins (ids : List String) (e : Relationship) : Bool :=
  e.sourceId ∈ ids && e.targetId ∈ ids

/-- Edges in their order, each once. -/
def sortEdges (edges : List Relationship) : List Relationship :=
  dropRepeats (edges.mergeSort fun a b => textsLe a.key b.key)

def ofLists (symbols : List Symbol) (edges : List Relationship) :
    Except GraphError SymbolGraph :=
  let ordered := symbols.mergeSort fun a b => textLe a.id b.id
  if ascend : ordered.Pairwise fun a b => a.id < b.id then
    let ids := ordered.map (·.id)
    let sorted := sortEdges edges
    if inside : ∀ e ∈ sorted, joins ids e = true then
      .ok ⟨ordered, sorted, ascend, by simpa [joins, ids] using inside⟩
    else match sorted.find? (fun e => !joins ids e) with
      | some e => .error (.endpointOutside e)
      | none => .error .duplicateIds
  else .error .duplicateIds

variable (g : SymbolGraph)

def ids : List String := g.symbols.map (·.id)

def contains (id : String) : Bool := g.symbols.any (·.id == id)

def get? (id : String) : Option Symbol := g.symbols.find? (·.id == id)

def outgoing (id : String) : List Relationship :=
  g.relationships.filter (·.sourceId == id)

def incoming (id : String) : List Relationship :=
  g.relationships.filter (·.targetId == id)

def outgoingOf (id : String) (kind : RelationshipKind) : List Relationship :=
  (g.outgoing id).filter (·.kind == kind)

def incomingOf (id : String) (kind : RelationshipKind) : List Relationship :=
  (g.incoming id).filter (·.kind == kind)

/-- Of several candidates, the first from the same path, else the first from the same namespace,
else the first. A point of view matters only among several. -/
def preferNear (near : Option Symbol) : List Symbol → Option Symbol
  | [] => none
  | [candidate] => some candidate
  | candidates =>
    match near with
    | none => candidates.head?
    | some symbol =>
      (candidates.find? (·.originPath == symbol.originPath)).or
        ((candidates.find? (·.nameSpace == symbol.nameSpace)).or candidates.head?)

def simpleName (name : String) : String := String.ofList (Text.afterLast '.' name.toList)

/-- The symbol that a type name means: by qualified name, else by simple name. -/
def lookupSymbol (name : String) (near : Option Symbol) : Option Symbol :=
  (g.symbols.find? (·.qualifiedName == name)).or
    (preferNear near (g.symbols.filter (·.name == simpleName name)))

def lookup (name : String) (near : Option Symbol) : Option String :=
  (g.lookupSymbol name near).map (·.id)

def summary : String :=
  "SymbolGraph(symbols=" ++ Number.natText g.symbols.length ++ ", relationships=" ++
    Number.natText g.relationships.length ++ ")"

def sameAs (other : SymbolGraph) : Bool :=
  g.symbols == other.symbols && g.relationships == other.relationships

end SymbolGraph

end TacticalDesign
