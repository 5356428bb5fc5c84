import TacticalDesign.Declaration
/-!
# Symbols and relationships

A symbol is one declaration with its identity: the path of its unit and its qualified name. A
relationship is a directed edge between two symbols, which it names by their ids.
-/

namespace TacticalDesign

structure Symbol where
  id : String
  name : String
  qualifiedName : String
  nameSpace : String
  kind : DeclarationKind
  originPath : String
  language : String
  fields : List FieldDeclaration := []
  methods : List MethodDeclaration := []
  bases : List String := []
  valueEquality : Bool := false
  isAbstract : Bool := false
  deriving DecidableEq, Repr

def symbolId (originPath qualifiedName : String) : String := originPath ++ "::" ++ qualifiedName

inductive RelationshipKind where
  | composition
  | reference
  | identity
  | inheritance
  | other (word : String)
  deriving DecidableEq, Repr

namespace RelationshipKind

def word : RelationshipKind → String
  | composition => "composition"
  | reference => "association_by_reference"
  | identity => "association_by_identity"
  | inheritance => "inheritance"
  | other w => w

def ofWord (w : String) : RelationshipKind :=
  if w = "composition" then composition
  else if w = "association_by_reference" then reference
  else if w = "association_by_identity" then identity
  else if w = "inheritance" then inheritance
  else other w

end RelationshipKind

inductive Cardinality where
  | one
  | many
  | other (word : String)
  deriving DecidableEq, Repr

namespace Cardinality

def word : Cardinality → String
  | one => "one"
  | many => "many"
  | other w => w

def ofWord (w : String) : Cardinality :=
  if w = "one" then one else if w = "many" then many else other w

end Cardinality

structure Relationship where
  sourceId : String
  targetId : String
  kind : RelationshipKind
  cardinality : Cardinality := .one
  /-- The field or the base that the edge stems from. -/
  via : String := ""
  deriving DecidableEq, Repr

namespace Relationship

/-- Edges are ordered by source, target, kind, origin and cardinality, all by their words. -/
def key (e : Relationship) : List String :=
  [e.sourceId, e.targetId, e.kind.word, e.via, e.cardinality.word]

end Relationship

end TacticalDesign
