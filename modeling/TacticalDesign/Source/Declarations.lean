import TacticalDesign.Declaration
import TacticalDesign.Source.ExprText
import TacticalDesign.Source.StatementGrammar
import TacticalDesign.Source.Walk
import TacticalDesign.Text.Trim
/-!
# The declarations of a module

Every class statement of a module or of a class body becomes a type declaration. Fields come from
annotations in the class body and from what the initializer assigns to `self`.
-/

namespace TacticalDesign.Source

open Text

/-! ## Names and types as texts -/

def enumBases : List String := ["Enum", "IntEnum", "StrEnum", "Flag", "IntFlag"]
def abstractBases : List String := ["ABC", "ABCMeta"]
def interfaceBases : List String := ["Protocol"]
def recordBases : List String := ["NamedTuple", "TypedDict"]
def accessorDecorators : List String :=
  ["property", "cached_property", "setter", "getter", "deleter"]
def staticDecorators : List String := ["staticmethod", "classmethod"]

def simpleName (name : String) : String := String.ofList (afterLast '.' name.toList)

/-- Whether a text starts with a name of the typing vocabulary, qualified or not. -/
def startsWithMark (mark typeText : String) : Bool :=
  startsWith typeText.toList mark.toList ||
    startsWith typeText.toList ("typing." ++ mark).toList

def isClassVariable (typeText : String) : Bool := startsWithMark "ClassVar" typeText

def isFinal (typeText : String) : Bool := startsWithMark "Final" typeText

def withoutFinal (typeText : String) : String :=
  let chars := typeText.toList
  match ["typing.Final[", "Final["].find? fun lead => startsWith chars lead.toList with
  | some lead =>
    if endsWith chars [']'] then String.ofList (chars.drop lead.length).dropLast else typeText
  | none => typeText

/-- Names with two low lines at both ends are public; otherwise two low lines in front make a name
private, and one makes it protected. -/
def visibilityOf (name : String) : Visibility :=
  let chars := name.toList
  if startsWith chars ['_', '_'] && endsWith chars ['_', '_'] then .publicAccess
  else if startsWith chars ['_', '_'] then .privateAccess
  else if startsWith chars ['_'] then .protectedAccess
  else .publicAccess

/-! ## Bases and decorators -/

/-- A base or metaclass without its type arguments; what is no dotted name has no text. -/
def baseText (e : Expr) : Written :=
  let e := match e with
    | .subscript value _ => value
    | e => e
  match e with
  | .name _ => e.text
  | .member _ _ => e.text
  | _ => .ok ""

def decoratorName (e : Expr) : String :=
  let e := match e with
    | .call function _ _ => function
    | e => e
  match e with
  | .member _ name => name
  | .name id => id
  | _ => ""

/-- The flags of a record decorator, later ones first. Only constants count. -/
def constantFlags (keywords : List Keyword) : List (String × Bool) :=
  (keywords.filterMap fun k =>
    match k.name, k.value with
    | some name, .literal v => some (name, v.isTruthy)
    | _, _ => none).reverse

/-- The flags of the first decorator that makes a class a record, if it has one. -/
def recordFlags (decorators : List Expr) : Option (List (String × Bool)) :=
  (decorators.find? fun d => decoratorName d = "dataclass").map fun d =>
    match d with
    | .call _ _ keywords => constantFlags keywords
    | _ => []

def metaclassText (keywords : List Keyword) : Written :=
  match keywords.find? fun k => k.name = some "metaclass" with
  | some k => baseText k.value
  | none => .ok ""

/-! ## Fields -/

def addField (fields : List FieldDeclaration) (field : FieldDeclaration) :
    List FieldDeclaration :=
  if fields.any (·.name = field.name) then fields else fields ++ [field]

def fieldOf (isFrozen : Bool) (name : String) (typeText : Option String) : FieldDeclaration where
  name := name
  declaredType := typeText.map withoutFinal
  isMutable := !isFrozen && !typeText.any isFinal

def annotatedField (isFrozen : Bool) : Statement → Except TextError (Option FieldDeclaration)
  | .annotated (.name id) typeExpr _ => do
    let text ← typeExpr.text
    return if isClassVariable text then none else some (fieldOf isFrozen id (some text))
  | _ => .ok none

def selfTarget? : Expr → Option String
  | .member (.name "self") name => some name
  | _ => none

/-- The annotations of parameters by name, later ones first. -/
def annotationTexts : List Parameter → Except TextError (List (String × String))
  | [] => .ok []
  | p :: rest => do
    match p.typeExpr with
    | none => annotationTexts rest
    | some e => do
      let text ← e.text
      return (← annotationTexts rest) ++ [(p.name, text)]

/-- The fields that a statement assigns to `self`. An assigned parameter hands on its type. -/
def assignedFields (isFrozen : Bool) (types : List (String × String)) :
    Statement → Except TextError (List FieldDeclaration)
  | .annotated target typeExpr _ => do
    let text ← typeExpr.text
    return (selfTarget? target).toList.map fun name => fieldOf isFrozen name (some text)
  | .assign targets value =>
    let typeText := match value with
      | .name id => types.lookup id
      | _ => none
    .ok ((targets.filterMap selfTarget?).map fun name => fieldOf isFrozen name typeText)
  | _ => .ok []

def isNamedParameter (p : Parameter) : Bool :=
  p.kind = .positional || p.kind = .keywordOnly

def initializerFields (isFrozen : Bool) : Statement → Except TextError (List FieldDeclaration)
  | .functionDef false "__init__" _ parameters _ body => do
    let types ← annotationTexts (parameters.filter isNamedParameter)
    return (← (Statement.walk body).mapM (assignedFields isFrozen types)).flatten
  | _ => .ok []

/-- Fields of annotations in the class body, then those of initializers; the first one of a name
counts. -/
def fieldsOf (isFrozen : Bool) (body : List Statement) :
    Except TextError (List FieldDeclaration) := do
  let annotated ← body.mapM (annotatedField isFrozen)
  let assigned ← body.mapM (initializerFields isFrozen)
  return (annotated.filterMap id ++ assigned.flatten).foldl addField []

/-! ## Methods -/

def isConstantExpression : Expr → Bool
  | .literal _ => true
  | _ => false

/-- Whether a body holds nothing but a constant or `pass`. -/
def isStubBody (body : List Statement) : Bool :=
  body.all fun s =>
    match s with
    | .pass => true
    | .expression e => isConstantExpression e
    | _ => false

/-- Parameters that arguments are passed to one by one. -/
def isSingleParameter (p : Parameter) : Bool :=
  p.kind = .positionalOnly || p.kind = .positional || p.kind = .keywordOnly

def methodOf (isInterface : Bool) : Statement → Except TextError (Option MethodDeclaration)
  | .functionDef _ name decorators parameters returns body => do
    let decorators := decorators.map decoratorName
    let singles := parameters.filter isSingleParameter
    let arguments := if "staticmethod" ∈ decorators then singles else singles.drop 1
    let returnText ← returns.mapM (·.text)
    let parameterText ← signatureText parameters
    let parameterTypes ← (arguments.filterMap (·.typeExpr)).mapM (·.text)
    let result := match returnText with
      | some text => " -> " ++ text
      | none => ""
    return some {
      name
      signature := "def " ++ name ++ "(" ++ parameterText ++ ")" ++ result
      visibility := visibilityOf name
      isStatic := decorators.any (· ∈ staticDecorators)
      isAccessor := decorators.any (· ∈ accessorDecorators)
      isAbstract := "abstractmethod" ∈ decorators || (isInterface && isStubBody body)
      parameterTypes
      returnType := returnText }
  | _ => .ok none

/-! ## Classes -/

def classDeclaration (nameSpace name : String) (decorators bases : List Expr)
    (keywords : List Keyword) (body : List Statement) : Except TextError TypeDeclaration := do
  let bases ← bases.mapM baseText
  let metaclass ← metaclassText keywords
  let hasBase (names : List String) : Bool := bases.any fun b => simpleName b ∈ names
  let flags := recordFlags decorators
  let isFrozen := flags.any fun fs => (fs.lookup "frozen").getD false
  let kind : DeclarationKind :=
    if hasBase enumBases then .enumType
    else if hasBase interfaceBases then .interfaceType
    else if hasBase recordBases || isFrozen then .recordType
    else .classType
  let isFrozen := isFrozen || hasBase recordBases
  let methods := (← body.mapM (methodOf (kind = .interfaceType))).filterMap id
  let fields ← if kind = .enumType then pure [] else fieldsOf isFrozen body
  return {
    name, kind, nameSpace, fields, methods
    bases := bases.filter (· ≠ "")
    valueEquality := flags.any (fun fs => (fs.lookup "eq").getD true) || hasBase recordBases ||
      methods.any (·.name = "__eq__")
    isAbstract := kind = .interfaceType || hasBase abstractBases ||
      simpleName metaclass ∈ abstractBases || methods.any (·.isAbstract) }

def qualify (nameSpace name : String) : String :=
  if nameSpace.isEmpty then name else nameSpace ++ "." ++ name

mutual

/-- The declarations of a statement: a class, then the classes in its body. -/
def declarationsOf (nameSpace : String) : Statement → Except TextError (List TypeDeclaration)
  | .classDef name decorators bases keywords body => do
    let declaration ← classDeclaration nameSpace name decorators bases keywords body
    return declaration :: (← declarationsIn (qualify nameSpace name) body)
  | _ => .ok []

def declarationsIn (nameSpace : String) :
    List Statement → Except TextError (List TypeDeclaration)
  | [] => .ok []
  | s :: rest => do
    let first ← declarationsOf nameSpace s
    return first ++ (← declarationsIn nameSpace rest)

end

end TacticalDesign.Source
