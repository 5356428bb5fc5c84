import TacticalDesign.BaselineIndex
/-!
# Reading baselines

A baseline document is read record by record. Each record has members that must be there and
members with a standard value, and takes no others; of what stands under them, anything becomes a
text where a text is wanted. The schema tag is looked at before anything else.
-/

namespace TacticalDesign

namespace BaselineReader

abbrev Read (α : Type) := Except BaselineProblem α

abbrev Members := List (String × Json)

/-- The members that a record must have, and those with a standard value. -/
structure RecordShape where
  name : String
  required : List String
  optional : List String

def fieldShape : RecordShape := ⟨"FieldDeclaration", ["name"], ["declared_type", "mutable"]⟩

def methodShape : RecordShape :=
  ⟨"MethodDeclaration", ["name"], ["signature", "visibility", "is_static", "is_accessor",
    "is_abstract", "parameter_types", "return_type"]⟩

def symbolShape : RecordShape :=
  ⟨"Symbol", ["symbol_id", "name", "qualified_name", "namespace", "kind", "origin_path",
    "language"], ["fields", "methods", "bases", "value_equality", "is_abstract"]⟩

def relationshipShape : RecordShape :=
  ⟨"Relationship", ["source_id", "target_id", "kind"], ["cardinality", "via"]⟩

def alternateShape : RecordShape := ⟨"Alternate", ["role", "score"], []⟩

def classificationShape : RecordShape :=
  ⟨"Classification", ["symbol_id", "role", "confidence", "score"], ["support", "alternates",
    "evidence", "ambiguous", "rationale"]⟩

/-- Members that fit a record: none beyond its own, and all that must be there. -/
def RecordShape.fit (shape : RecordShape) (members : Members) : Read Members :=
  match members.find? fun m => !(m.1 ∈ shape.required ++ shape.optional) with
  | some (key, _) =>
    .error (if key = "self" then .memberNamedSelf shape.name else .unexpectedMember shape.name key)
  | none =>
    let missing := shape.required.filter fun key => (Json.lookup key members).isNone
    if missing.isEmpty then .ok members else .error (.missingMembers shape.name missing)

def items (v : Json) : Read (List Json) :=
  match DeclarationReader.items v with
  | .ok items => .ok items
  | .error _ => .error (.notIterable v)

def listAt (key : String) (members : Members) : Read (List Json) :=
  match Json.lookup key members with
  | some v => items v
  | none => .error (.missingKey key)

def record (shape : RecordShape) (v : Json) : Read Members :=
  match v with
  | .object members => shape.fit members
  | v => .error (.notARecord shape.name v)

/-- Why the items of a list are no keys with their values, or the problem that a list has no keys
in any case. -/
def pairsFault (index : Nat) : List Json → BaselineProblem
  | [] => .listHasNoKeys
  | v :: rest =>
    match DeclarationReader.items v with
    | .error _ => .notAPair index
    | .ok [.array a, _] => .unhashable (.array a)
    | .ok [.object a, _] => .unhashable (.object a)
    | .ok [_, _] => pairsFault (index + 1) rest
    | .ok parts => .wrongPairLength index parts.length

def mapping (v : Json) : Read Members :=
  match v with
  | .object members => .ok members
  | .array items => .error (pairsFault 0 items)
  | .string s => if s.isEmpty then .error .textHasNoKeys else .error (.wrongPairLength 0 1)
  | v => .error (.notIterable v)

def text (key fallback : String) (members : Members) : String :=
  ((Json.lookup key members).map (·.asText)).getD fallback

def flag (key : String) (fallback : Bool) (members : Members) : Bool :=
  DeclarationReader.flag key fallback members

def number (key : String) (fallback : Number) (members : Members) : Number :=
  match Json.lookup key members with
  | some (.number n) => n
  | some (.bool b) => .int (if b then 1 else 0)
  | _ => fallback

def field (v : Json) : Read FieldDeclaration := do
  let m ← record fieldShape v
  return {
    name := text "name" "" m
    declaredType := DeclarationReader.optionalText "declared_type" m
    isMutable := flag "mutable" true m }

def method (v : Json) : Read MethodDeclaration := do
  let m ← match v with
    | .object members => pure members
    | v => .error (.notAMapping v)
  let parameterTypes ← items ((Json.lookup "parameter_types" m).getD (.array []))
  let m ← methodShape.fit m
  return {
    name := text "name" "" m
    signature := text "signature" "" m
    visibility := .ofWord (text "visibility" "public" m)
    isStatic := flag "is_static" false m
    isAccessor := flag "is_accessor" false m
    isAbstract := flag "is_abstract" false m
    parameterTypes := parameterTypes.map (·.asText)
    returnType := DeclarationReader.optionalText "return_type" m }

def symbol (v : Json) : Read Symbol := do
  let m ← mapping v
  let fields ← (← listAt "fields" m).mapM field
  let methods ← (← listAt "methods" m).mapM method
  let bases ← listAt "bases" m
  let m ← symbolShape.fit m
  return {
    id := text "symbol_id" "" m
    name := text "name" "" m
    qualifiedName := text "qualified_name" "" m
    nameSpace := text "namespace" "" m
    kind := .ofWord (text "kind" "" m)
    originPath := text "origin_path" "" m
    language := text "language" "" m
    fields
    methods
    bases := bases.map (·.asText)
    valueEquality := flag "value_equality" false m
    isAbstract := flag "is_abstract" false m }

def relationship (v : Json) : Read Relationship := do
  let m ← record relationshipShape v
  return {
    sourceId := text "source_id" "" m
    targetId := text "target_id" "" m
    kind := .ofWord (text "kind" "" m)
    cardinality := .ofWord (text "cardinality" "one" m)
    via := text "via" "" m }

def alternate (v : Json) : Read Alternate := do
  let m ← record alternateShape v
  return { role := .ofWord (text "role" "" m), score := number "score" (.int 0) m }

def classification (v : Json) : Read Classification := do
  let m ← mapping v
  let alternates ← (← listAt "alternates" m).mapM alternate
  let evidence ← listAt "evidence" m
  let m ← classificationShape.fit m
  return {
    symbolId := text "symbol_id" "" m
    role := .ofWord (text "role" "" m)
    confidence := .ofWord (text "confidence" "" m)
    score := number "score" (.int 0) m
    support := number "support" (.float 1) m
    alternates
    evidence := evidence.map (·.asText)
    ambiguous := flag "ambiguous" false m
    rationale := text "rationale" "" m }

/-- The schema tag of a document; anything but a text counts as missing. -/
def schemaTag (members : Members) : Option String :=
  match Json.lookup "schema_version" members with
  | some (.string tag) => some tag
  | _ => none

def required (key : String) (members : Members) : Read String :=
  match Json.lookup key members with
  | some v => .ok v.asText
  | none => .error (.missingKey key)

/-- The value under a key of a record, or the standard value. -/
def valueAt (key : String) (fallback v : Json) : Json := (v.get? key).getD fallback

def keyedSymbol (v : Json) : KeyedSymbol where
  id := valueAt "symbol_id" .null v
  name := valueAt "name" .null v
  qualifiedName := valueAt "qualified_name" .null v

def keyedEdge (v : Json) : KeyedEdge where
  source := valueAt "source_id" .null v
  target := valueAt "target_id" .null v
  kind := valueAt "kind" .null v
  cardinality := valueAt "cardinality" (.string "one") v
  via := valueAt "via" (.string "") v

/-- The parts of a baseline whose schema tag has been checked. The graph is indexed by the values
that stand in the document. -/
def parts (members : Members) : Read Baseline := do
  let symbolItems ← listAt "symbols" members
  let symbols ← symbolItems.mapM symbol
  let edgeItems ← listAt "relationships" members
  let relationships ← edgeItems.mapM relationship
  let classifications ← (← listAt "classifications" members).mapM classification
  let keyedEdges := edgeItems.map keyedEdge
  let keyed ← KeyedGraph.ofLists (symbolItems.map keyedSymbol) keyedEdges
  let graph ←
    match SymbolGraph.ofLists symbols (List.zipWith keyed.attach relationships keyedEdges) with
    | .ok g => pure g
    | .error e => throw (.graph e)
  let registryVersion ← required "registry_version" members
  let registryFingerprint ← required "registry_fingerprint" members
  return {
    schemaVersion := schemaTag members
    registryVersion
    registryFingerprint
    graph
    classifications
    rootPath := text "root_path" "" members }

/-! ## Sorts of values -/

inductive MemberSort where
  | text
  | optionalText
  | flag
  | number
  /-- A list of texts, or what else gives texts item by item. -/
  | texts
  deriving DecidableEq, Repr

def MemberSort.admits (sort : MemberSort) (v : Json) : Bool :=
  match sort, v with
  | text, .string _ => true
  | optionalText, .string _ => true
  | optionalText, .null => true
  | flag, .bool _ => true
  | number, .number _ => true
  | texts, v => (items v).toOption.any (·.all (· matches .string _))
  | _, _ => false

abbrev MemberSorts := List (String × MemberSort)

def fieldSorts : MemberSorts :=
  [("name", .text), ("declared_type", .optionalText), ("mutable", .flag)]

def methodSorts : MemberSorts :=
  [("name", .text), ("signature", .text), ("visibility", .text), ("is_static", .flag),
    ("is_accessor", .flag), ("is_abstract", .flag), ("parameter_types", .texts),
    ("return_type", .optionalText)]

def symbolSorts : MemberSorts :=
  [("symbol_id", .text), ("name", .text), ("qualified_name", .text), ("namespace", .text),
    ("kind", .text), ("origin_path", .text), ("language", .text), ("bases", .texts),
    ("value_equality", .flag), ("is_abstract", .flag)]

def relationshipSorts : MemberSorts :=
  [("source_id", .text), ("target_id", .text), ("kind", .text), ("cardinality", .text),
    ("via", .text)]

def alternateSorts : MemberSorts := [("role", .text), ("score", .number)]

def classificationSorts : MemberSorts :=
  [("symbol_id", .text), ("role", .text), ("confidence", .text), ("score", .number),
    ("support", .number), ("evidence", .texts), ("ambiguous", .flag), ("rationale", .text)]

/-- Whether the members that a value has are of their sorts. -/
def fits (sorts : MemberSorts) (v : Json) : Bool :=
  sorts.all fun (key, sort) => (v.get? key).all sort.admits

def itemsAt (key : String) (v : Json) : List Json :=
  (((v.get? key).map items).bind (·.toOption)).getD []

/-- Whether the records of a baseline document hold what they are declared to hold. Reading asks
for no more than the right members. -/
def isTyped (document : Json) : Bool :=
  ((itemsAt "symbols" document).all fun s =>
    fits symbolSorts s && (itemsAt "fields" s).all (fits fieldSorts) &&
      (itemsAt "methods" s).all (fits methodSorts)) &&
  (itemsAt "relationships" document).all (fits relationshipSorts) &&
  (itemsAt "classifications" document).all fun c =>
    fits classificationSorts c && (itemsAt "alternates" c).all (fits alternateSorts)

end BaselineReader

def Baseline.ofJson (document : Json) : Except BaselineError Baseline :=
  match document with
  | .object members =>
    match Baseline.checkSchema (BaselineReader.schemaTag members) with
    | .error m => .error (.schemaMismatch m)
    | .ok _ =>
      match BaselineReader.parts members with
      | .ok b => .ok b
      | .error problem => .error (.ofProblem problem)
  | _ => .error .notAMapping

end TacticalDesign
