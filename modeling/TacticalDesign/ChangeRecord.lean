import TacticalDesign.Baseline
import TacticalDesign.StructuralDiff
/-!
# Change records

A baseline against a later graph. Symbols match when their ids are equal, or when an alias says so.
Baseline symbols of units that were skipped this time are neither confirmed nor removed.
-/

namespace TacticalDesign

inductive ChangeKind where
  | removed
  | modified
  | added
  deriving DecidableEq, Repr

namespace ChangeKind

def word : ChangeKind → String
  | removed => "removed"
  | modified => "modified"
  | added => "added"

def rank : ChangeKind → Nat
  | removed => 0
  | modified => 1
  | added => 2

end ChangeKind

structure ChangeRecord where
  symbolId : String
  kind : ChangeKind
  prior : Option Classification := none
  current : Option Classification := none
  diff : Option StructuralDiff := none
  /-- The id in the baseline where it is another one. -/
  priorSymbolId : Option String := none

namespace ChangeRecord

def optionalJson {α : Type} (write : α → Json) : Option α → Json
  | none => .null
  | some a => write a

def toJson (r : ChangeRecord) : Json :=
  .object [("symbol_id", .string r.symbolId), ("change_kind", .string r.kind.word),
    ("prior", optionalJson Classification.toJson r.prior),
    ("current", optionalJson Classification.toJson r.current),
    ("diff", optionalJson StructuralDiff.toJson r.diff),
    ("prior_symbol_id", .optionalString r.priorSymbolId)]

/-- Records are ordered by symbol, then by kind. -/
def precedes (a b : ChangeRecord) : Bool :=
  if a.symbolId = b.symbolId then a.kind.rank ≤ b.kind.rank else textLe a.symbolId b.symbolId

end ChangeRecord

/-- New ids by old ids. -/
abbrev Aliases := List (String × String)

inductive AliasError where
  | unknownBaselineSymbol (id : String)
  | unknownCurrentSymbol (id : String)
  | clash (first second target : String)
  deriving DecidableEq, Repr

def AliasError.message : AliasError → String
  | unknownBaselineSymbol id => "Alias hint references unknown baseline symbol: " ++ id
  | unknownCurrentSymbol id => "Alias hint references unknown current symbol: " ++ id
  | clash first second target =>
    "Symbols " ++ first ++ " and " ++ second ++ " both map to " ++ target

namespace Aliases

def target (aliases : Aliases) (id : String) : String :=
  ((aliases.find? (·.1 == id)).map (·.2)).getD id

def sorted (aliases : Aliases) : Aliases := aliases.mergeSort fun a b => textLe a.1 b.1

/-- The first alias with an end outside its graph. -/
def dangling? (old new : SymbolGraph) : Aliases → Option AliasError
  | [] => none
  | (a, b) :: rest =>
    if !old.contains a then some (.unknownBaselineSymbol a)
    else if !new.contains b then some (.unknownCurrentSymbol b)
    else dangling? old new rest

/-- The first two baseline symbols that mean the same current symbol; `taken` holds the targets
met so far with their symbols. -/
def clash? (aliases : Aliases) (new : SymbolGraph) (taken : List (String × String)) :
    List String → Option AliasError
  | [] => none
  | id :: rest =>
    let goal := aliases.target id
    if !new.contains goal then clash? aliases new taken rest
    else match taken.find? (·.1 == goal) with
      | some (_, first) => some (.clash first id goal)
      | none => clash? aliases new ((goal, id) :: taken) rest

def check (aliases : Aliases) (old new : SymbolGraph) : Except AliasError Unit :=
  match (dangling? old new aliases.sorted).or (clash? aliases new [] old.ids) with
  | some e => .error e
  | none => .ok ()

end Aliases

structure Comparison where
  old : SymbolGraph
  new : SymbolGraph
  aliases : Aliases
  skippedPaths : List String

namespace Comparison

variable (c : Comparison)

def target (id : String) : String := c.aliases.target id

/-- Whether a baseline symbol came from a skipped unit and nothing stands in for it. -/
def isUnverified (s : Symbol) : Bool :=
  s.originPath ∈ c.skippedPaths && !c.new.contains (c.target s.id)

def unverified : List String := (c.old.symbols.filter c.isUnverified).map (·.id)

def edgeText (kind : RelationshipKind) (via target : String) : String :=
  kind.word ++ ":" ++ via ++ "->" ++ target

/-- The edges of a baseline symbol, with their targets' current ids and without those that cannot
be verified. -/
def oldEdges (id : String) : List String :=
  ((c.old.outgoing id).filter fun e => !(e.targetId ∈ c.unverified)).map fun e =>
    edgeText e.kind e.via (c.target e.targetId)

def newEdges (id : String) : List String :=
  (c.new.outgoing id).map fun e => edgeText e.kind e.via e.targetId

variable (prior current : List Classification)

/-- The record of a baseline symbol, if something about it changed. -/
def recordOf (s : Symbol) : Option ChangeRecord :=
  let before := Classification.of? prior s.id
  let id := c.target s.id
  match c.new.get? id with
  | none => some { symbolId := s.id, kind := .removed, prior := before }
  | some t =>
    let after := Classification.of? current id
    let diff := StructuralDiff.between ⟨s, c.oldEdges s.id, before⟩ ⟨t, c.newEdges id, after⟩
    if diff.isEmpty && id == s.id then none
    else some {
      symbolId := id
      kind := .modified
      prior := before
      current := after
      diff := some diff
      priorSymbolId := if id = s.id then none else some s.id }

def matchedIds : List String := c.old.ids.map c.target

def addedRecords : List ChangeRecord :=
  (c.new.symbols.filter fun s => !(s.id ∈ c.matchedIds)).map fun s =>
    { symbolId := s.id, kind := .added, current := Classification.of? current s.id }

def records : List ChangeRecord :=
  ((c.old.symbols.filter fun s => !c.isUnverified s).filterMap (c.recordOf prior current) ++
    c.addedRecords current).mergeSort ChangeRecord.precedes

end Comparison

inductive DiffError where
  | schema (m : SchemaMismatch)
  | aliasing (e : AliasError)

def DiffError.message : DiffError → String
  | schema m => m.message
  | aliasing e => e.message

namespace Baseline

def comparison (b : Baseline) (graph : SymbolGraph) (aliases : Aliases)
    (skippedPaths : List String) : Except AliasError Comparison :=
  match aliases.check b.graph graph with
  | .error e => .error e
  | .ok _ => .ok ⟨b.graph, graph, aliases, skippedPaths⟩

def changes (b : Baseline) (graph : SymbolGraph) (current : List Classification)
    (aliases : Aliases) (skippedPaths : List String) : Except DiffError (List ChangeRecord) :=
  match checkSchema b.schemaVersion with
  | .error m => .error (.schema m)
  | .ok _ =>
    match b.comparison graph aliases skippedPaths with
    | .error e => .error (.aliasing e)
    | .ok c => .ok (c.records b.classifications current)

def unverified (b : Baseline) (graph : SymbolGraph) (aliases : Aliases)
    (skippedPaths : List String) : Except AliasError (List String) :=
  match b.comparison graph aliases skippedPaths with
  | .error e => .error e
  | .ok c => .ok c.unverified

end Baseline

end TacticalDesign
