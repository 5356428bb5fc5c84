import TacticalDesign.Rule
import TacticalDesign.Shape
/-!
# The rule catalog

The built-in rules, grouped by the role they vote for.
-/

namespace TacticalDesign

namespace RuleCatalog

/-- Whether the simple name of a base, without type arguments, ends with one of the suffixes. -/
def baseEndsWith (s : Symbol) (suffixes : List String) : Bool :=
  s.bases.any fun base =>
    let name := Text.beforeFirst '[' (Text.afterLast '.' base.toList)
    suffixes.any fun suffix => Text.endsWith name suffix.toList

def timestampFields : List String :=
  ["occurredat", "occurredon", "timestamp", "happenedat", "raisedat", "recordedat"]

def hasTimestamp (s : Symbol) : Bool :=
  s.fields.any fun f => normalizeName f.name ∈ timestampFields

def isEventShaped (s : Symbol) : Bool := s.nameEndsWith ["Event"] || hasTimestamp s

def isRepositoryShaped (s : Symbol) : Bool := s.nameEndsWith ["Repository", "Repo"]

def valueSuffixes : List String :=
  ["Id", "Money", "Amount", "Address", "Range", "Quantity", "Price", "Email", "Period",
    "Coordinates"]

def creationVerbs : List String := ["create", "build", "make", "new", "from"]

def decisionVerbs : List String :=
  ["decide", "evaluate", "allow", "allows", "permit", "permits", "calculate", "choose"]

/-! ## Aggregate roots -/

def ownsChildrenWithBehaviour (s : Symbol) (g : SymbolGraph) : Bool :=
  s.hasIdentity && !(g.outgoingOf s.id .composition).isEmpty && !s.behavioralMethods.isEmpty

def unownedWithBehaviour (s : Symbol) (g : SymbolGraph) : Bool :=
  g.isAggregateShaped s && 2 ≤ s.behavioralMethods.length

def managedByRepository (s : Symbol) (g : SymbolGraph) : Bool :=
  s.hasIdentity && g.symbols.any fun other =>
    other.id != s.id && isRepositoryShaped other && s.id ∈ g.repositoryTargets other

/-- Half a point for each of the first two symbols that refer to this one by identity. -/
def referencedByIdentity (s : Symbol) (g : SymbolGraph) : Float :=
  if !s.hasIdentity || !(g.incomingOf s.id .composition).isEmpty then 0
  else
    match (textSet ((g.incomingOf s.id .identity).map (·.sourceId))).length with
    | 0 => 0
    | 1 => 0.5
    | _ => 1

def extendsAggregateBase (s : Symbol) (_ : SymbolGraph) : Bool :=
  baseEndsWith s ["AggregateRoot", "Aggregate"]

/-! ## Entities -/

def identityWithMutableState (s : Symbol) (_ : SymbolGraph) : Bool :=
  s.hasIdentity && s.fields.any fun f => f.isMutable && !s.ownsIdentityField f

def composedIdentity (s : Symbol) (g : SymbolGraph) : Bool :=
  s.hasIdentity && !(g.incomingOf s.id .composition).isEmpty

def extendsEntityBase (s : Symbol) (_ : SymbolGraph) : Bool := baseEndsWith s ["Entity"]

/-! ## Value objects -/

def immutableWithValueEquality (s : Symbol) (_ : SymbolGraph) : Bool :=
  !s.hasIdentity && s.allFieldsImmutable && s.valueEquality && !isEventShaped s

def immutableWithoutIdentity (s : Symbol) (_ : SymbolGraph) : Bool :=
  !s.hasIdentity && s.allFieldsImmutable && !s.isInterfaceLike && !isEventShaped s

def valueLikeName (s : Symbol) (_ : SymbolGraph) : Bool :=
  !s.hasIdentity && !s.isInterfaceLike &&
    (s.nameEndsWith valueSuffixes || s.name ∈ valueSuffixes)

def extendsValueBase (s : Symbol) (_ : SymbolGraph) : Bool :=
  baseEndsWith s ["ValueObject", "Value"]

/-! ## Domain services -/

def spansAggregates (s : Symbol) (g : SymbolGraph) : Bool :=
  s.isStateless && !s.isInterfaceLike &&
    let targets := s.behavioralMethods.flatMap (g.methodReferences s)
    2 ≤ (textSet (targets.filter fun id => (g.get? id).any g.isAggregateShaped)).length

def serviceName (s : Symbol) (_ : SymbolGraph) : Bool :=
  s.isStateless && s.nameEndsWith ["Service"]

/-! ## Domain events -/

def eventName (s : Symbol) (_ : SymbolGraph) : Float :=
  if s.hasIdentity || s.isInterfaceLike then 0
  else if s.nameEndsWith ["Event"] then 1
  else
    let words := splitWords s.name
    if 2 ≤ words.length && (words.getLast?.any fun w => Text.endsWith w.toList ['e', 'd']) &&
        s.allFieldsImmutable then 1
    else 0

def eventTimestamp (s : Symbol) (_ : SymbolGraph) : Bool := !s.hasIdentity && hasTimestamp s

def extendsEventBase (s : Symbol) (_ : SymbolGraph) : Bool := baseEndsWith s ["Event"]

/-! ## Repositories and ports -/

def repositoryName (s : Symbol) (_ : SymbolGraph) : Float :=
  if !isRepositoryShaped s then 0
  else if s.isInterfaceLike || s.isAbstract then 1
  else 0.5

def collectionLikeInterface (s : Symbol) (g : SymbolGraph) : Bool :=
  s.isInterfaceLike &&
    2 ≤ (s.methods.filter fun m => leadingVerb m.name ∈ repositoryVerbs).length &&
    !(g.repositoryTargets s).isEmpty

def portName (s : Symbol) (_ : SymbolGraph) : Bool :=
  s.isInterfaceLike && s.nameEndsWith
    ["Port", "Gateway", "Client", "Publisher", "Sender", "Notifier", "Provider"]

def outboundInterface (s : Symbol) (g : SymbolGraph) : Bool :=
  s.isInterfaceLike && !isRepositoryShaped s && (g.repositoryTargets s).isEmpty

/-! ## Factories, specifications and policies -/

def factoryName (s : Symbol) (_ : SymbolGraph) : Bool := s.nameEndsWith ["Factory", "Builder"]

def createsDomainObjects (s : Symbol) (g : SymbolGraph) : Bool :=
  !s.hasIdentity && s.methods.any fun m =>
    leadingVerb m.name ∈ creationVerbs && !(g.resolveType s m.returnType).isEmpty

def specificationName (s : Symbol) (_ : SymbolGraph) : Bool :=
  s.nameEndsWith ["Specification", "Spec"]

def satisfiedByMethod (s : Symbol) (_ : SymbolGraph) : Bool :=
  s.methods.any fun m => normalizeName m.name == "issatisfiedby"

def policyName (s : Symbol) (_ : SymbolGraph) : Bool :=
  s.nameEndsWith ["Policy", "Rule", "Strategy"]

def statelessDecision (s : Symbol) (_ : SymbolGraph) : Bool :=
  s.isStateless && !s.nameEndsWith ["Service"] &&
    s.behavioralMethods.any fun m => leadingVerb m.name ∈ decisionVerbs

/-! ## Fallbacks -/

def identityOrState (s : Symbol) (_ : SymbolGraph) : Bool :=
  s.hasIdentity || s.fields.any (·.isMutable)

def noIdentityNoState (s : Symbol) (g : SymbolGraph) : Bool := !identityOrState s g

/-! ## The catalog -/

def flag (id : String) (role : Role) (weight : Float) (description : String)
    (test : Symbol → SymbolGraph → Bool) : Rule where
  id := id
  role := role
  weight := .float weight
  description := description
  predicate s g := .value (.bool (test s g))

def graded (id : String) (role : Role) (weight : Float) (description : String)
    (score : Symbol → SymbolGraph → Float) : Rule where
  id := id
  role := role
  weight := .float weight
  description := description
  predicate s g := .value (.float (score s g))

def rules : List Rule := [
  flag "AR-001" .aggregateRoot 3.0 "identity, composes children and carries behaviour"
    ownsChildrenWithBehaviour,
  flag "AR-002" .aggregateRoot 1.5
    "identity, not composed by another symbol, two or more behaviours" unownedWithBehaviour,
  flag "AR-003" .aggregateRoot 2.0 "managed by a repository-shaped symbol" managedByRepository,
  graded "AR-004" .aggregateRoot 1.0 "referenced by identity from other symbols"
    referencedByIdentity,
  flag "AR-005" .aggregateRoot 3.0 "extends an aggregate root base type" extendsAggregateBase,
  flag "EN-001" .entity 2.0 "identity field plus mutable state" identityWithMutableState,
  flag "EN-002" .entity 1.5 "identity-bearing part composed by another symbol" composedIdentity,
  flag "EN-003" .entity 3.0 "extends an entity base type" extendsEntityBase,
  flag "VO-001" .valueObject 3.0 "no identity, read-only fields, equality over all fields"
    immutableWithValueEquality,
  flag "VO-002" .valueObject 1.0 "no identity and read-only fields" immutableWithoutIdentity,
  flag "VO-003" .valueObject 1.0 "value-like type name without identity" valueLikeName,
  flag "VO-004" .valueObject 3.0 "extends a value object base type" extendsValueBase,
  flag "DS-001" .domainService 3.0 "stateless, operates across two or more aggregates"
    spansAggregates,
  flag "DS-002" .domainService 1.5 "stateless type named as a service" serviceName,
  graded "EV-001" .domainEvent 2.5 "event or past-tense name without identity" eventName,
  flag "EV-002" .domainEvent 1.0 "carries an occurrence timestamp" eventTimestamp,
  flag "EV-003" .domainEvent 3.0 "extends an event base type" extendsEventBase,
  graded "RP-001" .repositoryInterface 3.0 "named as a repository" repositoryName,
  flag "RP-002" .repositoryInterface 1.5
    "interface with collection-like methods over identity-bearing types" collectionLikeInterface,
  flag "DP-001" .drivenPort 2.5 "interface named as an outbound port" portName,
  flag "DP-002" .drivenPort 0.75 "interface that is not a repository" outboundInterface,
  flag "FA-001" .factory 2.5 "named as a factory or builder" factoryName,
  flag "FA-002" .factory 1.5 "creation methods returning domain symbols" createsDomainObjects,
  flag "SP-001" .specification 2.5 "named as a specification" specificationName,
  flag "SP-002" .specification 2.0 "declares is_satisfied_by" satisfiedByMethod,
  flag "PO-001" .policy 2.5 "named as a policy, rule or strategy" policyName,
  flag "PO-002" .policy 1.0 "stateless decision-making methods" statelessDecision,
  flag "FB-001" .entity 0.25 "fallback: identity or mutable state" identityOrState,
  flag "FB-002" .valueObject 0.25 "fallback: neither identity nor mutable state"
    noIdentityNoState]

end RuleCatalog

end TacticalDesign
