import TacticalDesign.Classification
import TacticalDesign.Finding
import TacticalDesign.Number.Compare
import TacticalDesign.Registry
/-!
# Rationales

The sentence that goes with a classification or a finding. It cites the rules by their ids and
descriptions.
-/

namespace TacticalDesign

inductive RationaleError where
  | noRuleCited (symbolId : String)
  | unknownConfidence (word : String)
  | unknownSeverity (word : String)
  deriving DecidableEq, Repr

def RationaleError.message : RationaleError → String
  | noRuleCited symbolId => "Classification cites no rule (symbol_id=" ++ symbolId ++ ")"
  | unknownConfidence word => "Unknown confidence level: " ++ word
  | unknownSeverity word => "Unknown severity level: " ++ word

namespace Rationale

/-- A rule with its description; a rule that the registry lacks is cited by its id alone. -/
def cite (registry : RuleRegistry) (ruleId : String) : String :=
  match registry.get? ruleId with
  | some rule => ruleId ++ " " ++ rule.description
  | none => ruleId

def twoPlaces (n : Number) : String := n.fixed 2

def summary (registry : RuleRegistry) (c : Classification) : String :=
  c.role.word ++ " (" ++ c.confidence.word ++ ", score=" ++ twoPlaces c.score ++ ", support=" ++
    twoPlaces c.support ++ ") from " ++
    String.intercalate "; " (c.evidence.map (cite registry))

def tieText (c : Classification) : String :=
  "ambiguous: tied with " ++ String.intercalate ", "
    ((c.alternates.filter fun a => a.score.same c.score).map (·.role.word))

def alternatesText (c : Classification) : String :=
  "alternates: " ++ String.intercalate ", "
    (c.alternates.map fun a => a.role.word ++ "=" ++ twoPlaces a.score)

def ofClassification (registry : RuleRegistry) (c : Classification) : String :=
  String.intercalate "; " ([summary registry c] ++
    (if c.ambiguous then [tieText c] else []) ++
    (if c.alternates.isEmpty then [] else [alternatesText c]))

/-- The part of an id behind its last double colon. -/
def localName (id : String) : String := String.ofList (go id.toList id.toList)
where
  go (best : List Char) : List Char → List Char
    | [] => best
    | c :: rest => go (if [':', ':'].isPrefixOf (c :: rest) then rest.drop 1 else best) rest

def ofFinding (f : Finding) : String :=
  let head := f.antiPattern ++ " [" ++ f.severity.word ++ "] via " ++ f.ruleId ++ " on " ++
    String.intercalate ", " (f.symbolIds.map localName)
  if f.evidence.isEmpty then head else head ++ ": " ++ String.intercalate "; " f.evidence

end Rationale

namespace Classification

/-- Adds the rationale; the evidence is looked at before the level. -/
def explain (registry : RuleRegistry) (c : Classification) : Except RationaleError Classification :=
  if c.evidence.isEmpty then .error (.noRuleCited c.symbolId)
  else if !c.confidence.isKnown then .error (.unknownConfidence c.confidence.word)
  else .ok { c with rationale := Rationale.ofClassification registry c }

def explainAll (registry : RuleRegistry) :
    List Classification → Except RationaleError (List Classification)
  | [] => .ok []
  | c :: rest =>
    match c.explain registry with
    | .error e => .error e
    | .ok c =>
      match explainAll registry rest with
      | .error e => .error e
      | .ok cs => .ok (c :: cs)

end Classification

namespace Finding

def explain (f : Finding) : Except RationaleError Finding :=
  if f.severity.isKnown then .ok { f with rationale := Rationale.ofFinding f }
  else .error (.unknownSeverity f.severity.word)

def explainAll : List Finding → Except RationaleError (List Finding)
  | [] => .ok []
  | f :: rest =>
    match f.explain with
    | .error e => .error e
    | .ok f =>
      match explainAll rest with
      | .error e => .error e
      | .ok fs => .ok (f :: fs)

end Finding

end TacticalDesign
