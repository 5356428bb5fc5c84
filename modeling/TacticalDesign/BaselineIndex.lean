import TacticalDesign.BaselineProblem
import TacticalDesign.Number.Compare
/-!
# Symbols and edges under the values of a document

The records of a baseline are taken as they are, whatever values stand in them. These values are
what symbols are sorted and looked up by, so a value that cannot be compared or looked up shows
there. A graph of records has unique ids and edges between its symbols, or it is refused.
-/

namespace TacticalDesign

namespace Json

def asNumber? : Json → Option Number
  | number n => some n
  | bool b => some (.int (if b then 1 else 0))
  | _ => none

/-- Whether two values are one and the same key. Numbers are one key when they have one value; the
float that is no number is a key of its own. -/
def sameKey (a b : Json) : Bool :=
  match a, b with
  | null, null => true
  | string s, string t => s = t
  | a, b =>
    match a.asNumber?, b.asNumber? with
    | some (.float x), some (.float y) => x == y || (x.isNaN && y.isNaN)
    | some m, some n => m.same n
    | _, _ => false

def isKey : Json → Bool
  | array _ => false
  | object _ => false
  | _ => true

/-- Whether the order of two values is defined. Lists are taken to be in order with each other; no
list gets any further than that. -/
def isComparable (a b : Json) : Bool :=
  match a, b with
  | string _, string _ => true
  | array _, array _ => true
  | a, b => a.asNumber?.isSome && b.asNumber?.isSome

def keyLt (a b : Json) : Bool :=
  match a, b with
  | string s, string t => s < t
  | a, b =>
    match a.asNumber?, b.asNumber? with
    | some m, some n => m.lt n
    | _, _ => false

def firstDifference : List Json → List Json → Option (Json × Json)
  | a :: as, b :: bs => if a.sameKey b then firstDifference as bs else some (a, b)
  | _, _ => none

def keysLe (as bs : List Json) : Bool :=
  match firstDifference as bs with
  | some (a, b) => keyLt a b
  | none => true

end Json

structure KeyedSymbol where
  id : Json
  name : Json
  qualifiedName : Json

structure KeyedEdge where
  source : Json
  target : Json
  kind : Json
  cardinality : Json
  via : Json

namespace KeyedEdge

/-- The values of an edge in the order of its record. -/
def values (e : KeyedEdge) : List Json := [e.source, e.target, e.kind, e.cardinality, e.via]

/-- The values of an edge in the order that edges are sorted by. -/
def key (e : KeyedEdge) : List Json := [e.source, e.target, e.kind, e.via, e.cardinality]

/-- Whether both ends of an edge are among the ids. -/
def joins (ids : List Json) (e : KeyedEdge) : Bool :=
  ids.any (·.sameKey e.source) && ids.any (·.sameKey e.target)

def asRelationship (e : KeyedEdge) : Relationship where
  sourceId := e.source.asText
  targetId := e.target.asText
  kind := .ofWord e.kind.asText
  cardinality := .ofWord e.cardinality.asText
  via := e.via.asText

end KeyedEdge

structure KeyedGraph where
  symbols : List KeyedSymbol
  edges : List KeyedEdge
  distinct : symbols.Pairwise fun a b => a.id.sameKey b.id = false
  inside : ∀ e ∈ edges, e.joins (symbols.map (·.id)) = true

namespace KeyedGraph

abbrev Check := Except BaselineProblem Unit

/-- Fails where the order of neighbours is not defined. -/
def checkOrder (clash : α → α → Option (Json × Json)) : List α → Check
  | a :: b :: rest =>
    match clash a b with
    | some (v, w) => .error (.incomparable w v)
    | none => checkOrder clash (b :: rest)
  | _ => .ok ()

/-- Fails where a value cannot be looked up by. -/
def checkKeys (values : List Json) : Check :=
  match values.find? (!·.isKey) with
  | some v => .error (.unhashable v)
  | none => .ok ()

/-- Two ids without an order. Even an id and itself are put in order. -/
def idClash (a b : Json) : Option (Json × Json) := if a.isComparable b then none else some (a, b)

/-- The values that two edges differ in first, where these have no order. -/
def edgeClash (a b : KeyedEdge) : Option (Json × Json) :=
  (Json.firstDifference a.key b.key).filter fun d => !d.1.isComparable d.2

def ofLists (symbols : List KeyedSymbol) (edges : List KeyedEdge) :
    Except BaselineProblem KeyedGraph := do
  let ids := symbols.map (·.id)
  checkOrder idClash ids
  checkKeys ids
  if distinct : symbols.Pairwise fun a b => a.id.sameKey b.id = false then
    checkKeys (edges.flatMap (·.values))
    let sorted := edges.mergeSort fun a b => Json.keysLe a.key b.key
    checkOrder edgeClash sorted
    if inside : ∀ e ∈ edges, e.joins ids = true then
      let ordered := symbols.mergeSort fun a b => !b.id.keyLt a.id
      checkKeys (ordered.flatMap fun s => [s.name, s.qualifiedName])
      return ⟨symbols, edges, distinct, inside⟩
    else
      match sorted.find? fun e => !e.joins ids with
      | some e => throw (.graph (.endpointOutside e.asRelationship))
      | none => throw (.graph .duplicateIds)
  else throw (.graph .duplicateIds)

def textOf (g : KeyedGraph) (v : Json) : String :=
  (((g.symbols.map (·.id)).find? (·.sameKey v)).getD v).asText

def attach (g : KeyedGraph) (r : Relationship) (e : KeyedEdge) : Relationship :=
  { r with sourceId := g.textOf e.source, targetId := g.textOf e.target }

end KeyedGraph

end TacticalDesign
