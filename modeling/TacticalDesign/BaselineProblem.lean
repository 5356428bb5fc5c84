import TacticalDesign.Baseline
import TacticalDesign.DeclarationReader
/-!
# Problems of baseline documents

What can be wrong with a baseline document, with the kind of failure that each problem is. Reading
reports keys that are missing and values of the wrong sort as a malformed document and leaves every
other failure as it is.
-/

namespace TacticalDesign

inductive BaselineProblem where
  | missingKey (key : String)
  | notIterable (v : Json)
  | notAMapping (v : Json)
  /-- A value without members stands where a record of the named sort is wanted. -/
  | notARecord (record : String) (v : Json)
  | unhashable (v : Json)
  | unexpectedMember (record key : String)
  /-- A member that goes by the name of the record itself. -/
  | memberNamedSelf (record : String)
  | missingMembers (record : String) (keys : List String)
  /-- An item of a list cannot be a key with its value. -/
  | notAPair (index : Nat)
  /-- An item of a list holds too few or too many parts for a key with its value. -/
  | wrongPairLength (index length : Nat)
  | listHasNoKeys
  | textHasNoKeys
  /-- Two values that have to be put in order, of sorts without one. -/
  | incomparable (a b : Json)
  | graph (e : GraphError)
  deriving Inhabited

inductive BaselineError where
  | notAMapping
  | schemaMismatch (m : SchemaMismatch)
  | malformed (problem : BaselineProblem)
  /-- A problem that keeps its own kind. -/
  | plain (problem : BaselineProblem)

namespace BaselineProblem

def typeFailure (text : String) : Failure := .other "TypeError" text

/-- Quoted names with commas and a final "and". -/
def quotedNames : List String → String
  | [] => ""
  | [a] => Text.quoted a
  | [a, b] => Text.quoted a ++ " and " ++ Text.quoted b
  | names => String.intercalate ", " (names.dropLast.map Text.quoted) ++ ", and " ++
      Text.quoted (names.getLastD "")

def placedName (record : String) : String :=
  if record = "FieldDeclaration" ∨ record = "MethodDeclaration" then "dps.analyzer." ++ record
  else "dps.model." ++ record

def failure : BaselineProblem → Failure
  | missingKey key => .missingKey key
  | notIterable v => (DeclarationProblem.notIterable v).failure
  | notAMapping v => typeFailure (DeclarationProblem.quotedSort v ++ " object is not a mapping")
  | notARecord record v =>
    typeFailure (placedName record ++ "() argument after ** must be a mapping, not " ++
      RuleError.sortName v)
  | unhashable v => (DeclarationProblem.unhashable v).failure
  | unexpectedMember record key =>
    typeFailure (record ++ ".__init__() got an unexpected keyword argument " ++ Text.quoted key)
  | memberNamedSelf record =>
    typeFailure (record ++ ".__init__() got multiple values for argument 'self'")
  | missingMembers record keys =>
    typeFailure (record ++ ".__init__() missing " ++ Number.natText keys.length ++
      " required positional argument" ++ (if keys.length = 1 then "" else "s") ++ ": " ++
      quotedNames keys)
  | notAPair index =>
    typeFailure ("cannot convert dictionary update sequence element #" ++ Number.natText index ++
      " to a sequence")
  | wrongPairLength index length =>
    .value ("dictionary update sequence element #" ++ Number.natText index ++
      " has length " ++ Number.natText length ++ "; 2 is required")
  | listHasNoKeys => typeFailure "list indices must be integers or slices, not str"
  | textHasNoKeys => typeFailure "string indices must be integers, not 'str'"
  | incomparable a b =>
    typeFailure ("'<' not supported between instances of " ++ DeclarationProblem.quotedSort a ++
      " and " ++ DeclarationProblem.quotedSort b)
  | graph e => .value e.message

/-- The kinds of failure that make a document malformed. -/
def foreseenKinds : List String := ["KeyError", "TypeError"]

end BaselineProblem

namespace BaselineError

/-- What a problem with a part is for the document. -/
def ofProblem (problem : BaselineProblem) : BaselineError :=
  if problem.failure.kind ∈ BaselineProblem.foreseenKinds then .malformed problem
  else .plain problem

def failure : BaselineError → Failure
  | notAMapping => .value "Baseline payload must be a mapping."
  | schemaMismatch m => .other "SchemaVersionMismatchError" m.message
  | malformed problem => .value ("Malformed baseline payload: " ++ problem.failure.written)
  | plain problem => problem.failure

def message (e : BaselineError) : String := e.failure.shown

end BaselineError

end TacticalDesign
