import TacticalDesign.Json.Value
import TacticalDesign.Role
/-!
# Classifications

The role that a symbol was given, how sure that is, and which rules stand behind it.
-/

namespace TacticalDesign

structure Alternate where
  role : Role
  score : Number

structure Classification where
  symbolId : String
  role : Role
  confidence : Level
  /-- The winning vote. -/
  score : Number
  /-- The share of the winning vote in all votes. -/
  support : Number := .float 1
  alternates : List Alternate := []
  /-- The rules that voted for the role. -/
  evidence : List String := []
  /-- Whether another role has the same vote. -/
  ambiguous : Bool := false
  rationale : String := ""

namespace Classification

def alternateJson (a : Alternate) : Json :=
  .object [("role", .string a.role.word), ("score", .number a.score)]

def toJson (c : Classification) : Json :=
  .object [("symbol_id", .string c.symbolId), ("role", .string c.role.word),
    ("confidence", .string c.confidence.word), ("score", .number c.score),
    ("support", .number c.support), ("alternates", .array (c.alternates.map alternateJson)),
    ("evidence", .strings c.evidence), ("ambiguous", .bool c.ambiguous),
    ("rationale", .string c.rationale)]

/-- The classification of a symbol in a list; of several the last one counts. -/
def of? (items : List Classification) (symbolId : String) : Option Classification :=
  items.reverse.find? (·.symbolId == symbolId)

end Classification

end TacticalDesign
