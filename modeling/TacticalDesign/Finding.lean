import TacticalDesign.Json.Value
import TacticalDesign.Ordering
import TacticalDesign.Role
/-!
# Findings

A detected anti-pattern with the symbols it involves and the facts that show it.
-/

namespace TacticalDesign

structure Finding where
  antiPattern : String
  ruleId : String
  severity : Level
  symbolIds : List String
  evidence : List String := []
  rationale : String := ""
  deriving DecidableEq, Repr

namespace Finding

def toJson (f : Finding) : Json :=
  .object [("anti_pattern", .string f.antiPattern), ("rule_id", .string f.ruleId),
    ("severity", .string f.severity.word), ("symbol_ids", .strings f.symbolIds),
    ("evidence", .strings f.evidence), ("rationale", .string f.rationale)]

/-- Findings are ordered by rule, then by the symbols they involve. -/
def precedes (a b : Finding) : Bool :=
  if a.ruleId = b.ruleId then textsLe a.symbolIds b.symbolIds else textLe a.ruleId b.ruleId

end Finding

end TacticalDesign
