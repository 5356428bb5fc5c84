import TacticalDesign.Failure
import TacticalDesign.Graph
import TacticalDesign.Json.Written
import TacticalDesign.Role
import TacticalDesign.Text.Trim
/-!
# Rules

A rule votes for one role with a weight, as far as its predicate scores a symbol. Rules come from
outside as candidates whose parts may be anything; `RuleCandidate.check` accepts the well-formed
ones, and `Rule.score` accepts only scores between zero and one.
-/

namespace TacticalDesign

/-- What becomes of a predicate: any value, or a failure of its own. -/
inductive PredicateOutcome where
  | value (v : Json)
  | failed (f : Failure)
  /-- A failure that is let through: an exit, an interrupt, or one whose text cannot be made. -/
  | escaped (f : Failure)

abbrev Predicate := Symbol → SymbolGraph → PredicateOutcome

structure Rule where
  id : String
  role : Role
  predicate : Predicate
  weight : Number
  description : String

inductive RuleCandidate where
  /-- A value that is no rule at all. -/
  | bare (v : Json)
  /-- The parts of a rule; the predicate is missing where something else stands in its place. -/
  | parts (id role weight description : Json) (predicate : Option Predicate)

inductive RuleError where
  | emptyVersion
  | noRules
  | notARule (v : Json)
  | invalidId (id : Json)
  | duplicateId (id : String)
  | unknownRole (id : String) (role : Json)
  | invalidWeight (id : String) (weight : Json)
  | notCallable (id : String)
  | emptyDescription (id : String)
  | predicateFailed (id symbolId : String) (f : Failure)
  | nonNumericScore (id : String) (score : Json)
  | scoreOutside (id : String) (score : Number)
  | uncovered (symbolId : String)
  | unknownRules (ids : List String)
  | invalidDocument (problem : String)
  | documentNotObject
  | unknownDocumentKeys (keys : List String)
  | weightsNotObject
  | disabledNotList
  | versionNotText
  /-- A whole number beyond the largest float where a number has to be compared. -/
  | tooLarge
  /-- A description that is neither empty nor a text. -/
  | descriptionNotText (description : Json)
  /-- A failure of a predicate that is let through. -/
  | escaped (f : Failure)

namespace RuleError

def sortName : Json → String
  | .null => "NoneType"
  | .bool _ => "bool"
  | .number (.int _) => "int"
  | .number (.float _) => "float"
  | .string _ => "str"
  | .array _ => "list"
  | .object _ => "dict"

def ruleId? : RuleError → Option String
  | duplicateId id => some id
  | unknownRole id _ => some id
  | invalidWeight id _ => some id
  | notCallable id => some id
  | emptyDescription id => some id
  | predicateFailed id _ _ => some id
  | nonNumericScore id _ => some id
  | scoreOutside id _ => some id
  | _ => none

def detail : RuleError → String
  | emptyVersion => "registry version must be a non-empty string"
  | noRules => "registry must contain at least one rule"
  | notARule v => "not a RuleDefinition: " ++ v.written
  | invalidId id => "invalid rule id " ++ id.written
  | duplicateId _ => "duplicate rule id"
  | unknownRole _ role => "unknown role " ++ role.written
  | invalidWeight _ weight => "weight must be a finite positive number, got " ++ weight.written
  | notCallable _ => "predicate is not callable"
  | emptyDescription _ => "description must not be empty"
  | predicateFailed _ symbolId f =>
    "predicate raised " ++ f.kind ++ " for " ++ symbolId ++ ": " ++ f.shown
  | nonNumericScore _ score => "predicate returned non-numeric score " ++ score.written
  | scoreOutside _ score => "predicate returned score " ++ score.text ++ " outside [0.0, 1.0]"
  | uncovered symbolId => "no rule fired for " ++ symbolId ++ "; the registry does not cover it"
  | unknownRules ids => "overrides reference unknown rules: " ++ String.intercalate ", " ids
  | invalidDocument problem => "rule overrides are not valid JSON: " ++ problem
  | documentNotObject => "rule overrides must be a JSON object"
  | unknownDocumentKeys keys => "unknown rule override keys: " ++ String.intercalate ", " keys
  | weightsNotObject => "'weights' must be an object"
  | disabledNotList => "'disabled' must be a list of rule ids"
  | versionNotText => "'version' must be a string"
  | tooLarge => "int too large to convert to float"
  | descriptionNotText v => Text.quoted (sortName v) ++ " object has no attribute 'strip'"
  | escaped f => f.shown

def shownValue? : RuleError → Option Json
  | notARule v => some v
  | invalidId v => some v
  | unknownRole _ v => some v
  | invalidWeight _ v => some v
  | nonNumericScore _ v => some v
  | _ => none

/-- The failure that comes in place of an error, where a check fails itself, a predicate's failure
is let through, or the message cannot be written. -/
def failure? (room : Nat) (e : RuleError) : Option Failure :=
  match e with
  | tooLarge => some (.other "OverflowError" e.detail)
  | descriptionNotText _ => some (.other "AttributeError" e.detail)
  | escaped f => some f
  | e => e.shownValue?.bind (·.writingFailure? room)

/-- The message names the rule first, where the error is about one. -/
def message (e : RuleError) : String :=
  match e.ruleId? with
  | some id => id ++ ": " ++ e.detail
  | none => e.detail

end RuleError

namespace Rule

/-- The score of a symbol: a flag counts one or zero, a number counts as it is. -/
def score (r : Rule) (symbol : Symbol) (graph : SymbolGraph) : Except RuleError Float :=
  match r.predicate symbol graph with
  | .failed f => .error (.predicateFailed r.id symbol.id f)
  | .escaped f => .error (.escaped f)
  | .value (.bool b) => .ok (if b then 1 else 0)
  | .value (.number n) =>
    match n.toFloat? with
    | none => .error .tooLarge
    | some x =>
      if !x.isFinite then .error (.nonNumericScore r.id (.number n))
      else if n.isNegative || n.exceedsOne then .error (.scoreOutside r.id n)
      else .ok x
  | .value v => .error (.nonNumericScore r.id v)

def toCandidate (r : Rule) : RuleCandidate :=
  .parts (.string r.id) (.string r.role.word) (.number r.weight) (.string r.description)
    (some r.predicate)

end Rule

namespace RuleCandidate

/-- Two capitals, a hyphen and three digits; a line feed may follow. -/
def isRuleId (id : String) : Bool :=
  match id.toList with
  | a :: b :: '-' :: c :: d :: e :: rest =>
    Text.isAsciiUpper a && Text.isAsciiUpper b && Text.isDecimal c && Text.isDecimal d &&
      Text.isDecimal e && (rest == [] || rest == ['\n'])
  | _ => false

def checkWeight (id : String) (weight : Json) : Except RuleError Number :=
  match weight with
  | .number n =>
    match n.toFloat? with
    | none => .error .tooLarge
    | some x => if x.isFinite && n.isPositive then .ok n else .error (.invalidWeight id weight)
  | _ => .error (.invalidWeight id weight)

def checkDescription (id : String) (description : Json) : Except RuleError String :=
  if description.isTruthy then
    match description with
    | .string s => if Text.isBlankText s then .error (.emptyDescription id) else .ok s
    | v => .error (.descriptionNotText v)
  else .error (.emptyDescription id)

/-- Accepts a well-formed rule whose id is not among those seen. -/
def check (seen : List String) : RuleCandidate → Except RuleError Rule
  | bare v => .error (.notARule v)
  | parts id role weight description predicate =>
    match id with
    | .string id =>
      if !isRuleId id then .error (.invalidId (.string id))
      else if id ∈ seen then .error (.duplicateId id)
      else
        match (match role with | .string w => Role.ofWord? w | _ => none) with
        | none => .error (.unknownRole id role)
        | some role =>
          match checkWeight id weight with
          | .error e => .error e
          | .ok weight =>
            match predicate with
            | none => .error (.notCallable id)
            | some predicate =>
              match checkDescription id description with
              | .error e => .error e
              | .ok description => .ok { id, role, predicate, weight, description }
    | v => .error (.invalidId v)

end RuleCandidate

end TacticalDesign
