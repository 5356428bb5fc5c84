import TacticalDesign.Config
import TacticalDesign.RelationshipDerivation
import TacticalDesign.SourceUnit
import TacticalDesign.Text.Trim
/-!
# Building the graph

Units are extracted by a fixed number of workers. A unit that overruns the time limit keeps its
worker for good; when no worker is left, the units that have not started are skipped as well. The
symbols of all other units go into one graph. Between two looks at the time a build waits for units
to be done; it may fail when that wait is longer than a clock can tell.
-/

namespace TacticalDesign

namespace SourceUnit

def symbolOf (u : SourceUnit) (d : TypeDeclaration) : Symbol :=
  let qualifiedName := if d.nameSpace.isEmpty then d.name else d.nameSpace ++ "." ++ d.name
  { id := symbolId u.path qualifiedName
    name := d.name
    qualifiedName
    nameSpace := d.nameSpace
    kind := d.kind
    originPath := u.path
    language := u.language
    fields := d.fields
    methods := d.methods
    bases := d.bases
    valueEquality := d.valueEquality
    isAbstract := d.isAbstract || d.kind == .interfaceType }

/-- The symbols of the declarations of a unit; one without a name fails the unit. -/
def symbolsOf (u : SourceUnit) (declarations : List TypeDeclaration) :
    Except Failure (List Symbol) :=
  if declarations.any fun d => Text.isBlankText d.name then
    .error (.value ("Declaration without a name in " ++ u.path))
  else .ok (declarations.map u.symbolOf)

def unparseable (u : SourceUnit) (f : Failure) : SkippedUnit := ⟨u.path, .unparseable, f.reason⟩

def overdue (u : SourceUnit) (limit : Float) : SkippedUnit :=
  ⟨u.path, .timeout, "extraction exceeded " ++ Number.floatText limit ++ "s"⟩

def starved (u : SourceUnit) : SkippedUnit :=
  ⟨u.path, .timeout, "no worker available; all workers timed out"⟩

end SourceUnit

structure PartialGraph where
  path : String
  symbols : List Symbol

inductive Yield where
  | part (p : PartialGraph)
  | skip (s : SkippedUnit)

/-- What comes of a unit; none when its handle does not return in time. -/
def SourceUnit.yield? (u : SourceUnit) : Option Yield :=
  match u.extraction with
  | .declared declarations =>
    match u.symbolsOf declarations with
    | .ok symbols => some (.part ⟨u.path, symbols⟩)
    | .error f => some (.skip (u.unparseable f))
  | .failed f => some (.skip (u.unparseable f))
  | .overrun => none
  | .cancelling => none

/-- What extraction leaves behind: parts and skips in the order of the units, and whether every
unit came to an end. -/
structure Harvest where
  parts : List PartialGraph := []
  skipped : List SkippedUnit := []
  complete : Bool := true

namespace Harvest

def addSkip (s : SkippedUnit) (h : Harvest) : Harvest := { h with skipped := s :: h.skipped }

def add (y : Yield) (h : Harvest) : Harvest :=
  match y with
  | .part p => { h with parts := p :: h.parts }
  | .skip s => h.addSkip s

/-- Extracts units in order, given how many workers are free. -/
def ofUnits (limit : Float) (workers : Nat) : List SourceUnit → Harvest
  | [] => {}
  | u :: rest =>
    match workers with
    | 0 => (ofUnits limit 0 rest).addSkip u.starved
    | free + 1 =>
      match u.yield? with
      | some y => (ofUnits limit (free + 1) rest).add y
      | none =>
        if u.extraction = .cancelling then { complete := false }
        else (ofUnits limit free rest).addSkip (u.overdue limit)

end Harvest

namespace SymbolGraph

def keepFirst (seen : List String) : List Symbol → List Symbol
  | [] => []
  | s :: rest => if s.id ∈ seen then keepFirst seen rest else s :: keepFirst (s.id :: seen) rest

def ofSymbols (symbols : List Symbol) : Except GraphError SymbolGraph :=
  let distinct := keepFirst [] symbols
  match ofLists distinct [] with
  | .error e => .error e
  | .ok arena => ofLists distinct arena.derivedEdges

end SymbolGraph

structure Build where
  graph : SymbolGraph
  skipped : List SkippedUnit
  processedPaths : List String
  unitCount : Nat
  complete : Bool

inductive BuildError where
  | graph (e : GraphError)
  /-- A wait for longer than a clock can tell. -/
  | waitTooLong

def BuildError.message : BuildError → String
  | graph e => e.message
  | waitTooLong => "timestamp too large to convert to C _PyTime_t"

namespace Build

def ofHarvest (unitCount : Nat) (h : Harvest) : Except BuildError Build :=
  match SymbolGraph.ofSymbols (h.parts.flatMap (·.symbols)) with
  | .error e => .error (.graph e)
  | .ok graph => .ok {
      graph
      skipped := h.skipped
      processedPaths := h.parts.map (·.path)
      unitCount
      complete := h.complete }

/-- The longest wait in seconds: a clock counts nanoseconds in 63 bits. -/
def longestWait : Float := 9223372036.854774

/-- Whether the waits of a build are too long. Without units, and in a run that is cancelled before
it starts, there is nothing to wait for. -/
def overdraws (config : ScanConfig) (units : List SourceUnit) (cancelled : Bool) : Bool :=
  !cancelled && !units.isEmpty && longestWait < config.pollInterval

/-- Whether no unit is ever done: the first units take all workers and keep them. -/
def neverDone (config : ScanConfig) (units : List SourceUnit) : Bool :=
  (units.take config.maxWorkers.toNat).all (·.extraction = .overrun)

/-- The build of units one by one. A run that is cancelled before it starts extracts nothing. -/
def inOrder (config : ScanConfig) (units : List SourceUnit) (cancelled : Bool) :
    Except BuildError Build :=
  ofHarvest units.length
    (if cancelled then { complete := units.isEmpty }
    else Harvest.ofUnits config.unitTimeout config.maxWorkers.toNat units)

/-- The graph of units, or the failure of a wait that is too long. -/
def ofUnits (config : ScanConfig) (units : List SourceUnit) (cancelled : Bool) :
    Except BuildError Build :=
  if overdraws config units cancelled then .error .waitTooLong
  else inOrder config units cancelled

/-- What a build may come to that nobody disturbs. A wait that is too long fails as long as no unit
that it waits for is done; how far the workers are when it begins is not in the hands of the build,
so it may also be spared all such waits. `ofUnits` is one of the outcomes. -/
inductive Outcome (config : ScanConfig) (units : List SourceUnit) (cancelled : Bool) :
    Except BuildError Build → Prop where
  | settled (spared : overdraws config units cancelled = true → neverDone config units = false) :
      Outcome config units cancelled (inOrder config units cancelled)
  | overdrawn (long : overdraws config units cancelled = true) :
      Outcome config units cancelled (.error .waitTooLong)

/-- Whether units give a build in every outcome but the failure of a wait that is too long. -/
def Gives (config : ScanConfig) (units : List SourceUnit) (cancelled : Bool) (b : Build) : Prop :=
  ∀ x, Outcome config units cancelled x →
    x = .ok b ∨ overdraws config units cancelled = true ∧ x = .error .waitTooLong

end Build

end TacticalDesign
