import TacticalDesign.Declaration
import TacticalDesign.Failure
import TacticalDesign.Json.Value
/-!
# Source units

A unit is a path with what its front end got out of it. A unit that gives no declarations in time
is left out of the graph as a skip.
-/

namespace TacticalDesign

inductive Extraction where
  | declared (declarations : List TypeDeclaration)
  | failed (failure : Failure)
  /-- Takes longer than the time limit. -/
  | overrun
  /-- Asks for the end of the run, then takes longer than the time limit. -/
  | cancelling
  deriving DecidableEq, Repr

structure SourceUnit where
  path : String
  language : String
  extraction : Extraction
  deriving DecidableEq, Repr

inductive SkipKind where
  | unparseable
  | timeout
  deriving DecidableEq, Repr

def SkipKind.word : SkipKind → String
  | unparseable => "unparseable"
  | timeout => "timeout"

structure SkippedUnit where
  path : String
  kind : SkipKind
  reason : String
  deriving DecidableEq, Repr

def SkippedUnit.toJson (s : SkippedUnit) : Json :=
  .object [("path", .string s.path), ("kind", .string s.kind.word), ("reason", .string s.reason)]

end TacticalDesign
