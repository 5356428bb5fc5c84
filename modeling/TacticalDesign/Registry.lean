import TacticalDesign.Digest
import TacticalDesign.RuleCatalog
/-!
# Rule registries

A registry holds accepted rules in the order of their roles, then of their ids, under a version.
Its fingerprint digests the version and every rule's id, role and weight.
-/

namespace TacticalDesign

structure RuleRegistry where
  version : String
  rules : List Rule

namespace RuleRegistry

/-- The symbol that every predicate is tried on when a registry is made. -/
def sampleSymbol : Symbol where
  id := symbolId "<sample>" "sample.Sample"
  name := "Sample"
  qualifiedName := "sample.Sample"
  nameSpace := "sample"
  kind := .classType
  originPath := "<sample>"
  language := "sample"
  fields := [{ name := "id", declaredType := some "str", isMutable := false },
    { name := "parts", declaredType := some "list[SamplePart]" }]
  methods := [{ name := "apply", signature := "apply(part: SamplePart) -> None",
                parameterTypes := ["SamplePart"], returnType := some "None" }]

def samplePart : Symbol where
  id := symbolId "<sample>" "sample.SamplePart"
  name := "SamplePart"
  qualifiedName := "sample.SamplePart"
  nameSpace := "sample"
  kind := .recordType
  originPath := "<sample>"
  language := "sample"
  fields := [{ name := "value", declaredType := some "int", isMutable := false }]
  valueEquality := true

def sampleGraph : SymbolGraph :=
  match SymbolGraph.ofLists [sampleSymbol, samplePart] [] with
  | .ok g => g
  | .error _ => SymbolGraph.empty

/-- Accepts candidates one by one; each must also score the sample. -/
def acceptAll (seen : List String) : List RuleCandidate → Except RuleError (List Rule)
  | [] => .ok []
  | candidate :: rest =>
    match candidate.check seen with
    | .error e => .error e
    | .ok rule =>
      match rule.score sampleSymbol sampleGraph with
      | .error e => .error e
      | .ok _ =>
        match acceptAll (rule.id :: seen) rest with
        | .error e => .error e
        | .ok rules => .ok (rule :: rules)

def ruleLe (a b : Rule) : Bool :=
  if a.role.rank = b.role.rank then textLe a.id b.id else a.role.rank < b.role.rank

def ofCandidates (candidates : List RuleCandidate) (version : Json) :
    Except RuleError RuleRegistry :=
  match version with
  | .string v =>
    if v.isEmpty then .error .emptyVersion
    else if candidates.isEmpty then .error .noRules
    else
      match acceptAll [] candidates with
      | .error e => .error e
      | .ok rules => .ok ⟨v, rules.mergeSort ruleLe⟩
  | _ => .error .emptyVersion

def ruleText (r : Rule) : String := "|" ++ r.id ++ ":" ++ r.role.word ++ ":" ++ r.weight.text

def fingerprintText (registry : RuleRegistry) : String :=
  registry.version ++ String.join (registry.rules.map ruleText)

def fingerprint (registry : RuleRegistry) : String :=
  Digest.sha256OfText registry.fingerprintText

def get? (registry : RuleRegistry) (id : String) : Option Rule :=
  registry.rules.find? (·.id == id)

def rulesFor (registry : RuleRegistry) (role : Role) : List Rule :=
  registry.rules.filter (·.role == role)

structure Overrides where
  weights : List (String × Json) := []
  disabled : List String := []
  version : Json := .null

/-- The registry with rules reweighted and dropped. A missing version is derived. -/
def withOverrides (registry : RuleRegistry) (o : Overrides) : Except RuleError RuleRegistry :=
  let mentioned := o.weights.map (·.1) ++ o.disabled
  let unknown := mentioned.filter fun id => (registry.get? id).isNone
  if !unknown.isEmpty then .error (.unknownRules (textSet unknown))
  else
    let kept := registry.rules.filter fun r => !(r.id ∈ o.disabled)
    let candidates := kept.map fun r =>
      match Json.lookup r.id o.weights with
      | some weight => .parts (.string r.id) (.string r.role.word) weight (.string r.description)
          (some r.predicate)
      | none => r.toCandidate
    ofCandidates candidates
      (if o.version.isTruthy then o.version else .string (registry.version ++ "+custom"))

def defaultVersion : String := "2026.1"

def standard : RuleRegistry :=
  ⟨defaultVersion, RuleCatalog.rules.mergeSort ruleLe⟩

end RuleRegistry

def RuleRegistry.Overrides.ofJson (document : Json) : Except RuleError RuleRegistry.Overrides :=
  match document with
  | .object members =>
    let known := ["version", "weights", "disabled"]
    let unknown := (members.map (·.1)).filter fun key => !(key ∈ known)
    if !unknown.isEmpty then .error (.unknownDocumentKeys (sortTexts unknown))
    else
      let weights := (Json.lookup "weights" members).getD (.object [])
      let disabled := (Json.lookup "disabled" members).getD (.array [])
      let version := (Json.lookup "version" members).getD .null
      match weights with
      | .object weights =>
        match disabled with
        | .array items =>
          match items.mapM (fun | .string s => some s | _ => none) with
          | none => .error .disabledNotList
          | some disabled =>
            match version with
            | .null => .ok { weights, disabled, version }
            | .string _ => .ok { weights, disabled, version }
            | _ => .error .versionNotText
        | _ => .error .disabledNotList
      | _ => .error .weightsNotObject
  | _ => .error .documentNotObject

end TacticalDesign
