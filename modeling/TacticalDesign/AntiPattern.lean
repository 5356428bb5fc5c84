import TacticalDesign.Config
import TacticalDesign.Finding
import TacticalDesign.Number.Decimal
import TacticalDesign.Shape
/-!
# Anti-patterns

Six structural violations in a graph whose symbols have roles. The detectors only read the roles.
-/

namespace TacticalDesign

abbrev RoleMap := List (String × Role)

namespace RoleMap

/-- The role of a symbol; of several entries the last one counts. -/
def role? (roles : RoleMap) (id : String) : Option Role :=
  (roles.reverse.find? (·.1 == id)).map (·.2)

def hasRole (roles : RoleMap) (id : String) (role : Role) : Bool := roles.role? id == some role

end RoleMap

structure AntiPattern where
  ruleId : String
  name : String
  severity : Level

namespace AntiPattern

def anemicModel : AntiPattern := ⟨"AP-001", "anemic_model", .high⟩
def godClass : AntiPattern := ⟨"AP-002", "god_class", .high⟩
def primitiveObsession : AntiPattern := ⟨"AP-003", "primitive_obsession", .medium⟩
def megaAggregate : AntiPattern := ⟨"AP-004", "mega_aggregate", .medium⟩
def crossAggregateReference : AntiPattern := ⟨"AP-005", "cross_aggregate_reference", .high⟩
def missingRepository : AntiPattern := ⟨"AP-006", "missing_repository", .medium⟩

def finding (p : AntiPattern) (symbolIds evidence : List String) : Finding where
  antiPattern := p.name
  ruleId := p.ruleId
  severity := p.severity
  symbolIds := symbolIds
  evidence := evidence

def countText (label : String) (n : Nat) : String := label ++ "=" ++ Number.natText n

def commaList (items : List String) : String := String.intercalate "," items

/-! ## Symbols on their own -/

/-- Entities and aggregate roots without behaviour. -/
def anemicModels (graph : SymbolGraph) (roles : RoleMap) : List Finding :=
  graph.symbols.filterMap fun symbol =>
    match roles.role? symbol.id with
    | none => none
    | some role =>
      if (role == .entity || role == .aggregateRoot) && symbol.behavioralMethods.isEmpty then
        some (anemicModel.finding [symbol.id]
          (["role=" ++ role.word, countText "fields" symbol.fields.length,
            "behavioral_methods=0"] ++
            symbol.accessorMethods.map fun m => "accessor:" ++ m.name))
      else none

/-- The distinct leading verbs of the behaviour, in order. -/
def verbsOf (symbol : Symbol) : List String :=
  textSet (symbol.behavioralMethods.map fun m => leadingVerb m.name)

def isGodClass (config : ScanConfig) (symbol : Symbol) : Bool :=
  config.godClassMaxMethods < symbol.ordinaryMethods.length &&
    config.godClassMaxFields < symbol.fields.length &&
    config.godClassMinVerbs ≤ (verbsOf symbol).length

def godClasses (config : ScanConfig) (graph : SymbolGraph) : List Finding :=
  (graph.symbols.filter (isGodClass config)).map fun symbol =>
    godClass.finding [symbol.id]
      [countText "methods" symbol.ordinaryMethods.length,
        countText "fields" symbol.fields.length, "verbs=" ++ commaList (verbsOf symbol)]

/-! ## Recurring combinations of primitive fields -/

def primitiveFields (symbol : Symbol) : List FieldDeclaration :=
  symbol.fields.filter fun f => isPrimitiveType f.declaredType && !symbol.ownsIdentityField f

def primitiveNames (symbol : Symbol) : List String :=
  textSet ((primitiveFields symbol).map fun f => normalizeName f.name)

/-- The field that a normalized name stands for; of several the last one. -/
def primitiveField? (symbol : Symbol) (name : String) : Option FieldDeclaration :=
  (primitiveFields symbol).reverse.find? fun f => normalizeName f.name == name

/-- The symbols with enough primitive fields to take part. -/
def primitiveSymbols (config : ScanConfig) (graph : SymbolGraph) : List Symbol :=
  graph.symbols.filter fun s => config.obsessionMinFields ≤ (primitiveNames s).length

def isValueObject (roles : RoleMap) (s : Symbol) : Bool := roles.hasRole s.id .valueObject

/-- The classified symbols that take part and are no value objects. -/
def holders (config : ScanConfig) (graph : SymbolGraph) (roles : RoleMap) : List Symbol :=
  (primitiveSymbols config graph).filter fun s =>
    (roles.role? s.id).isSome && !isValueObject roles s

def hasAllFields (combination : List String) (s : Symbol) : Bool :=
  combination.all (· ∈ primitiveNames s)

def sharedNames (a b : Symbol) : List String :=
  (primitiveNames a).filter (· ∈ primitiveNames b)

/-- What is shared by two of the symbols. -/
def pairCombinations : List Symbol → List (List String)
  | [] => []
  | s :: rest => rest.map (sharedNames s) ++ pairCombinations rest

/-- The large enough combinations that two holders share, in order, each once. -/
def combinations (config : ScanConfig) (symbols : List Symbol) : List (List String) :=
  dropRepeats
    (((pairCombinations symbols).filter fun c => config.obsessionMinFields ≤ c.length).mergeSort
      textsLe)

/-- A combination of field names with the symbols that have all of it. -/
structure Recurrence where
  members : List Symbol
  combination : List String

/-- Keeps, for the same members, the larger combination, and the earlier one of equal size. -/
def Recurrence.merge (r : Recurrence) : List Recurrence → List Recurrence
  | [] => [r]
  | q :: rest =>
    if q.members.map (·.id) = r.members.map (·.id) then
      (if q.combination.length < r.combination.length then r else q) :: rest
    else q :: Recurrence.merge r rest

/-- The combinations that enough holders have and no value object has. -/
def recurrences (config : ScanConfig) (graph : SymbolGraph) (roles : RoleMap) :
    List Recurrence :=
  let symbols := holders config graph roles
  let values := (primitiveSymbols config graph).filter (isValueObject roles)
  let found : List Recurrence := (combinations config symbols).filterMap fun c =>
    let members := symbols.filter (hasAllFields c)
    if config.obsessionMinSymbols ≤ members.length && !values.any (hasAllFields c) then
      some ⟨members, c⟩
    else none
  found.foldl (fun kept r => r.merge kept) []

def fieldEvidence (s : Symbol) (name : String) : Option String :=
  (primitiveField? s name).map fun f =>
    s.name ++ "." ++ f.name ++ ":" ++ f.declaredType.getD ""

def primitiveObsessions (config : ScanConfig) (graph : SymbolGraph) (roles : RoleMap) :
    List Finding :=
  let ordered := (recurrences config graph roles).mergeSort fun a b =>
    textsLe (a.members.map (·.id)) (b.members.map (·.id))
  ordered.map fun r =>
    primitiveObsession.finding (r.members.map (·.id))
      (("fields=" ++ commaList r.combination) ::
        r.members.flatMap fun s => r.combination.filterMap (fieldEvidence s))

/-! ## Aggregates -/

def entityChildren (graph : SymbolGraph) (roles : RoleMap) (symbol : Symbol) : List String :=
  textSet (((graph.outgoingOf symbol.id .composition).map (·.targetId)).filter fun id =>
    roles.hasRole id .entity)

def nameOf (graph : SymbolGraph) (id : String) : String :=
  ((graph.get? id).map (·.name)).getD ""

def megaAggregates (config : ScanConfig) (graph : SymbolGraph) (roles : RoleMap) :
    List Finding :=
  graph.symbols.filterMap fun symbol =>
    let children := entityChildren graph roles symbol
    if roles.hasRole symbol.id .aggregateRoot && config.megaAggregateMaxEntities < children.length
    then some (megaAggregate.finding [symbol.id]
      ([countText "entity_children" children.length,
        "limit=" ++ Number.intText config.megaAggregateMaxEntities] ++
        children.map fun id => "child:" ++ nameOf graph id))
    else none

def composers (graph : SymbolGraph) (id : String) : List String :=
  firstOccurrences ((graph.incomingOf id .composition).map (·.sourceId))

/-- Follows composition upwards from the ids of a stack. Every id comes onto the stack once, so as
many steps as there are symbols are enough. -/
def climb (graph : SymbolGraph) (visited : List String) : Nat → List String → List String
  | 0, _ => visited
  | _ + 1, [] => visited
  | steps + 1, id :: stack =>
    let fresh := (composers graph id).filter fun source => !(source ∈ visited)
    climb graph (visited ++ fresh) steps (fresh ++ stack)

/-- The aggregate roots that are composed of a symbol, directly or through others. -/
def owningRoots (graph : SymbolGraph) (roles : RoleMap) (symbol : Symbol) : List String :=
  let visited := climb graph [symbol.id] (graph.symbols.length + 1) [symbol.id]
  sortTexts ((visited.drop 1).filter fun id => roles.hasRole id .aggregateRoot)

/-- References from entities to aggregate roots that do not own them. -/
def crossAggregateReferences (graph : SymbolGraph) (roles : RoleMap) : List Finding :=
  (graph.symbols.filter fun s => roles.hasRole s.id .entity).flatMap fun symbol =>
    let owners := owningRoots graph roles symbol
    let crossing := (graph.outgoingOf symbol.id .reference).filter fun e =>
      roles.hasRole e.targetId .aggregateRoot && !(e.targetId ∈ owners)
    crossing.map fun e =>
      crossAggregateReference.finding [symbol.id, e.targetId]
        (["field:" ++ e.via, "target:" ++ nameOf graph e.targetId] ++
          owners.map fun owner => "owner:" ++ nameOf graph owner)

/-- What the repositories of a graph manage or refer to. -/
def managedIds (graph : SymbolGraph) (roles : RoleMap) : List String :=
  (graph.symbols.filter fun s => roles.hasRole s.id .repositoryInterface).flatMap fun s =>
    graph.repositoryTargets s ++ (graph.outgoing s.id).map (·.targetId)

def missingRepositories (graph : SymbolGraph) (roles : RoleMap) : List Finding :=
  let managed := managedIds graph roles
  (graph.symbols.filter fun s =>
    roles.hasRole s.id .aggregateRoot && !(s.id ∈ managed)).map fun s =>
      missingRepository.finding [s.id] ["expected:" ++ s.name ++ "Repository"]

def detect (config : ScanConfig) (graph : SymbolGraph) (roles : RoleMap) : List Finding :=
  (anemicModels graph roles ++ godClasses config graph ++
    primitiveObsessions config graph roles ++ megaAggregates config graph roles ++
    crossAggregateReferences graph roles ++ missingRepositories graph roles).mergeSort
      Finding.precedes

end AntiPattern

end TacticalDesign
