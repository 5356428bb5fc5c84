import TacticalDesign.Shape
/-!
# Deriving relationships

Edges that the fields and bases of the symbols of a graph give rise to. A field that names another
symbol's identity refers to it by identity; any other field composes or refers to the symbols that
its type mentions.
-/

namespace TacticalDesign

namespace SymbolGraph

variable (g : SymbolGraph)

/-- The other symbols of a normalized name; the nearest of them is preferred, also where there is
only one. -/
def symbolOfNormalName (name : String) (near : Symbol) : Option Symbol :=
  preferNear (some near)
    (g.symbols.filter fun s => normalizeName s.name == name && s.id != near.id)

/-- Whether a symbol holds another one as its part: a symbol without identity, or one that is named
after its owner. -/
def owns (owner target : Symbol) : Bool :=
  !target.hasIdentity ||
    Text.startsWith (normalizeName target.name).toList (normalizeName owner.name).toList

def identityEdge (symbol : Symbol) (field : FieldDeclaration) : Option Relationship :=
  (symbol.identityReferenceTarget field).bind fun name =>
    (g.symbolOfNormalName name symbol).map fun target =>
      { sourceId := symbol.id
        targetId := target.id
        kind := .identity
        cardinality := (TypeReference.of field.declaredType).cardinality
        via := field.name }

def typeEdges (symbol : Symbol) (field : FieldDeclaration) : List Relationship :=
  (g.resolveType symbol field.declaredType).map fun targetId =>
    { sourceId := symbol.id
      targetId
      kind := if (g.get? targetId).any (owns symbol) then .composition else .reference
      cardinality := (TypeReference.of field.declaredType).cardinality
      via := field.name }

def fieldEdges (symbol : Symbol) (field : FieldDeclaration) : List Relationship :=
  match g.identityEdge symbol field with
  | some e => [e]
  | none => g.typeEdges symbol field

def baseEdge (symbol : Symbol) (base : String) : Option Relationship :=
  ((g.lookup base (some symbol)).filter (· ≠ symbol.id)).map fun targetId =>
    { sourceId := symbol.id, targetId, kind := .inheritance, via := base }

def symbolEdges (symbol : Symbol) : List Relationship :=
  symbol.fields.flatMap (g.fieldEdges symbol) ++ symbol.bases.filterMap (g.baseEdge symbol)

def derivedEdges : List Relationship := g.symbols.flatMap g.symbolEdges

end SymbolGraph

end TacticalDesign
