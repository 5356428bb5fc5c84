import TacticalDesign.Rule
import TacticalDesign.SourceUnit
/-!
# Declarations from documents

Reads the declarations that an external tool wrote as JSON. A reader of this form takes what it
gets: anything becomes a text where a text is wanted and a flag where a flag is wanted, and a text
or an object may stand where a list is wanted, as the list of its characters or of its keys.
-/

namespace TacticalDesign

inductive DeclarationProblem where
  /-- A value without members stands where an object is wanted. -/
  | noMembers (v : Json)
  | missing (key : String)
  | notIterable (v : Json)
  /-- A list or an object stands where a word is wanted. -/
  | unhashable (v : Json)
  | unknownKind (v : Json)
  | unknownVisibility (v : Json)

inductive UnitProblem where
  /-- The producing tool reports an error of its own. -/
  | reported (v : Json)
  | declarationsNotList
  | malformed (problem : DeclarationProblem)
  /-- A problem of a kind that reading a unit is not prepared for. -/
  | unforeseen (problem : DeclarationProblem)

namespace DeclarationProblem

def quotedSort (v : Json) : String := Text.quoted (RuleError.sortName v)

def failure : DeclarationProblem → Failure
  | noMembers v => .other "AttributeError" (quotedSort v ++ " object has no attribute 'get'")
  | missing key => .missingKey key
  | notIterable v => .other "TypeError" (quotedSort v ++ " object is not iterable")
  | unhashable v => .other "TypeError" ("unhashable type: " ++ quotedSort v)
  | unknownKind v => .value ("unknown declaration kind " ++ v.written)
  | unknownVisibility v => .value ("unknown visibility " ++ v.written)

/-- The kinds of failure that make a declaration malformed. -/
def foreseenKinds : List String := ["AttributeError", "KeyError", "TypeError", "ValueError"]

end DeclarationProblem

/-- A failure as its kind with the quoted text in parentheses. -/
def Failure.written (f : Failure) : String := f.kind ++ "(" ++ Text.quoted f.text ++ ")"

namespace UnitProblem

def ofDeclaration (problem : DeclarationProblem) : UnitProblem :=
  if problem.failure.kind ∈ DeclarationProblem.foreseenKinds then .malformed problem
  else .unforeseen problem

/-- Only a problem that was not foreseen goes by its own kind. -/
def toFailure : UnitProblem → Failure
  | reported v => .unparseable v.asText
  | declarationsNotList => .unparseable "'declarations' must be a list"
  | malformed problem => .unparseable ("malformed declaration: " ++ problem.failure.written)
  | unforeseen problem => problem.failure

end UnitProblem

namespace DeclarationReader

abbrev Read (α : Type) := Except DeclarationProblem α

def items (v : Json) : Read (List Json) :=
  match v with
  | .array items => .ok items
  | .string s => .ok (s.toList.map fun c => .string (String.singleton c))
  | .object members => .ok (members.map fun m => .string m.1)
  | v => .error (.notIterable v)

def members (v : Json) : Read (List (String × Json)) :=
  match v with
  | .object members => .ok members
  | v => .error (.noMembers v)

def required (key : String) (members : List (String × Json)) : Read Json :=
  match Json.lookup key members with
  | some v => .ok v
  | none => .error (.missing key)

def flag (key : String) (fallback : Bool) (members : List (String × Json)) : Bool :=
  ((Json.lookup key members).map (·.isTruthy)).getD fallback

def text (key : String) (members : List (String × Json)) : String :=
  ((Json.lookup key members).map (·.asText)).getD ""

def optionalText (key : String) (members : List (String × Json)) : Option String :=
  match Json.lookup key members with
  | none => none
  | some .null => none
  | some v => some v.asText

def list (key : String) (members : List (String × Json)) : Read (List Json) :=
  items ((Json.lookup key members).getD (.array []))

def texts (key : String) (members : List (String × Json)) : Read (List String) := do
  let items ← list key members
  return items.map (·.asText)

def word (known : String → Bool) (unknown : Json → DeclarationProblem) (v : Json) : Read String :=
  match v with
  | .string w => if known w then .ok w else .error (unknown v)
  | .array _ => .error (.unhashable v)
  | .object _ => .error (.unhashable v)
  | v => .error (unknown v)

def field (v : Json) : Read FieldDeclaration := do
  let entry ← members v
  let declaredType := optionalText "declared_type" entry
  let name ← required "name" entry
  return { name := name.asText, declaredType, isMutable := flag "mutable" true entry }

def method (v : Json) : Read MethodDeclaration := do
  let entry ← members v
  let visibility ← word (fun w => (Visibility.ofWord w).isKnown) .unknownVisibility
    ((Json.lookup "visibility" entry).getD (.string "public"))
  let name ← required "name" entry
  let parameterTypes ← texts "parameter_types" entry
  return {
    name := name.asText
    signature := text "signature" entry
    visibility := Visibility.ofWord visibility
    isStatic := flag "is_static" false entry
    isAccessor := flag "is_accessor" false entry
    isAbstract := flag "is_abstract" false entry
    parameterTypes
    returnType := optionalText "return_type" entry }

def declaration (v : Json) : Read TypeDeclaration := do
  let entry ← members v
  let kind ← word (fun w => (DeclarationKind.ofWord w).isKnown) .unknownKind
    ((Json.lookup "kind" entry).getD (.string "class"))
  let name ← required "name" entry
  let fields ← (← list "fields" entry).mapM field
  let methods ← (← list "methods" entry).mapM method
  let bases ← texts "bases" entry
  return {
    name := name.asText
    kind := DeclarationKind.ofWord kind
    nameSpace := text "namespace" entry
    fields
    methods
    bases
    valueEquality := flag "value_equality" false entry
    isAbstract := flag "is_abstract" false entry }

/-- The declarations of a unit. An error that the unit reports wins over anything else in it. -/
def unit (item : List (String × Json)) : Except UnitProblem (List TypeDeclaration) :=
  match Json.lookup "error" item with
  | some v => .error (.reported v)
  | none =>
    match Json.lookup "declarations" item with
    | none => .ok []
    | some (.array entries) =>
      match entries.mapM declaration with
      | .ok declarations => .ok declarations
      | .error problem => .error (.ofDeclaration problem)
    | some _ => .error .declarationsNotList

end DeclarationReader

def Extraction.ofDocument (item : List (String × Json)) : Extraction :=
  match DeclarationReader.unit item with
  | .ok declarations => .declared declarations
  | .error problem => .failed problem.toFailure

end TacticalDesign
