import TacticalDesign.Json.Value
import TacticalDesign.Ordering
/-!
# Configuration

Every tunable limit of one scan. A configuration that reaches a scan has passed `ScanConfig.check`.
-/

namespace TacticalDesign

structure ScanConfig where
  /-- Least winning vote for high confidence. -/
  highThreshold : Float := 4.0
  /-- Least winning vote for medium confidence. -/
  mediumThreshold : Float := 2.0
  /-- Greatest distance from the winning vote at which a role is still an alternate. -/
  ambiguityMargin : Float := 0.5
  godClassMaxMethods : Int := 15
  godClassMaxFields : Int := 10
  /-- Least number of distinct verbs of a god class. -/
  godClassMinVerbs : Int := 5
  /-- Entities that an aggregate root may own. -/
  megaAggregateMaxEntities : Int := 5
  /-- Least size of a recurring combination of primitive fields. -/
  obsessionMinFields : Int := 2
  /-- Least number of symbols that share a combination. -/
  obsessionMinSymbols : Int := 2
  maxWorkers : Int := 4
  unitTimeout : Float := 30.0
  pollInterval : Float := 0.05
  /-- Least similarity of a rename hint. -/
  renameThreshold : Float := 0.75

inductive ConfigError where
  | unknownKeys (keys : List String)
  | notANumber (key : String)
  | notWhole (key : String)
  /-- A whole number beyond the largest float. -/
  | tooLarge
  | negative (key : String)
  | highBelowMedium
  | notPositive (key : String)
  | belowTwo (key : String)
  | renameThresholdOutside
  deriving DecidableEq, Repr

namespace ConfigError

def message : ConfigError → String
  | unknownKeys keys => "Unknown configuration keys: " ++ String.intercalate ", " keys
  | notANumber key => "Configuration value for " ++ key ++ " must be a number"
  | notWhole key => "Configuration value for " ++ key ++ " must be an integer"
  | tooLarge => "int too large to convert to float"
  | negative key => key ++ " must be >= 0"
  | highBelowMedium => "high_confidence_threshold must be >= medium_confidence_threshold"
  | notPositive key => key ++ " must be > 0"
  | belowTwo key => key ++ " must be >= 2"
  | renameThresholdOutside => "rename_hint_threshold must be between 0.0 and 1.0."

end ConfigError

/-- One setting by its key: it takes a float or a whole number. -/
inductive Setting where
  | real (write : ScanConfig → Float → ScanConfig) (read : ScanConfig → Float)
  | whole (write : ScanConfig → Int → ScanConfig) (read : ScanConfig → Int)

def settings : List (String × Setting) :=
  [("high_confidence_threshold",
      .real (fun c x => { c with highThreshold := x }) (·.highThreshold)),
    ("medium_confidence_threshold",
      .real (fun c x => { c with mediumThreshold := x }) (·.mediumThreshold)),
    ("ambiguity_margin", .real (fun c x => { c with ambiguityMargin := x }) (·.ambiguityMargin)),
    ("god_class_max_methods",
      .whole (fun c n => { c with godClassMaxMethods := n }) (·.godClassMaxMethods)),
    ("god_class_max_fields",
      .whole (fun c n => { c with godClassMaxFields := n }) (·.godClassMaxFields)),
    ("god_class_min_verbs",
      .whole (fun c n => { c with godClassMinVerbs := n }) (·.godClassMinVerbs)),
    ("mega_aggregate_max_entities",
      .whole (fun c n => { c with megaAggregateMaxEntities := n }) (·.megaAggregateMaxEntities)),
    ("primitive_obsession_min_fields",
      .whole (fun c n => { c with obsessionMinFields := n }) (·.obsessionMinFields)),
    ("primitive_obsession_min_symbols",
      .whole (fun c n => { c with obsessionMinSymbols := n }) (·.obsessionMinSymbols)),
    ("max_workers", .whole (fun c n => { c with maxWorkers := n }) (·.maxWorkers)),
    ("unit_timeout_seconds", .real (fun c x => { c with unitTimeout := x }) (·.unitTimeout)),
    ("poll_interval_seconds", .real (fun c x => { c with pollInterval := x }) (·.pollInterval)),
    ("rename_hint_threshold",
      .real (fun c x => { c with renameThreshold := x }) (·.renameThreshold))]

def setting? (key : String) : Option Setting :=
  (settings.find? (·.1 == key)).map (·.2)

namespace ScanConfig

/-- The first limit that a configuration breaks, in the order in which limits are checked. A float
that is no number breaks none of them. -/
def violation? (c : ScanConfig) : Option ConfigError :=
  if c.mediumThreshold < 0 then some (.negative "medium_confidence_threshold")
  else if c.highThreshold < c.mediumThreshold then some .highBelowMedium
  else if c.ambiguityMargin < 0 then some (.negative "ambiguity_margin")
  else if c.godClassMaxMethods < 0 then some (.negative "god_class_max_methods")
  else if c.godClassMaxFields < 0 then some (.negative "god_class_max_fields")
  else if c.megaAggregateMaxEntities < 0 then some (.negative "mega_aggregate_max_entities")
  else if c.godClassMinVerbs ≤ 0 then some (.notPositive "god_class_min_verbs")
  else if c.obsessionMinFields < 2 then some (.belowTwo "primitive_obsession_min_fields")
  else if c.obsessionMinSymbols < 2 then some (.belowTwo "primitive_obsession_min_symbols")
  else if c.maxWorkers ≤ 0 then some (.notPositive "max_workers")
  else if c.unitTimeout ≤ 0 then some (.notPositive "unit_timeout_seconds")
  else if c.pollInterval ≤ 0 then some (.notPositive "poll_interval_seconds")
  else if c.renameThreshold < 0 || c.renameThreshold > 1 then some .renameThresholdOutside
  else none

def check (c : ScanConfig) : Except ConfigError ScanConfig :=
  match c.violation? with
  | some e => .error e
  | none => .ok c

def override (c : ScanConfig) (key : String) (value : Json) : Except ConfigError ScanConfig :=
  match setting? key, value with
  | none, _ => .error (.unknownKeys [key])
  | some (.real write _), .number n =>
    match n.toFloat? with
    | none => .error .tooLarge
    | some x => .ok (write c x)
  | some (.whole write _), .number n =>
    if n.toFloat?.isNone then .error .tooLarge
    else match n.toInt? with
      | none => .error (.notWhole key)
      | some i => .ok (write c i)
  | some _, _ => .error (.notANumber key)

def overrideAll (c : ScanConfig) : List (String × Json) → Except ConfigError ScanConfig
  | [] => .ok c
  | (key, value) :: rest =>
    match c.override key value with
    | .error e => .error e
    | .ok c => c.overrideAll rest

def ofOverrides (members : List (String × Json)) : Except ConfigError ScanConfig :=
  let unknown := (members.map (·.1)).filter fun key => (setting? key).isNone
  if unknown.isEmpty then
    match overrideAll {} members with
    | .error e => .error e
    | .ok c => c.check
  else .error (.unknownKeys (sortTexts unknown))

def toJson (c : ScanConfig) : Json :=
  .object (settings.map fun (key, s) => (key, match s with
    | .real _ read => .float (read c)
    | .whole _ read => .int (read c)))

end ScanConfig

end TacticalDesign
