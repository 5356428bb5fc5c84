import TacticalDesign.TypeReference
/-!
# Shapes

What a symbol looks like: which fields carry its identity, which methods behave, what it owns.
Rules and detectors are written against these notions.
-/

namespace TacticalDesign

def identityWords : List String := ["id", "uuid", "guid", "identifier"]

def accessorVerbs : List String := ["get", "set", "is", "has"]

def repositoryVerbs : List String :=
  ["save", "add", "find", "get", "load", "remove", "delete", "store", "put", "exists", "count",
    "next"]

def constructorNames : List String :=
  ["__init__", "__new__", "__post_init__", "constructor", "<init>", "init"]

/-- The words before a final identity word, when there is one and something before it. -/
def identityOwner? (words : List String) : Option String :=
  match words.getLast? with
  | some last =>
    if last ∈ identityWords ∧ 2 ≤ words.length then some (String.join words.dropLast) else none
  | none => none

namespace Symbol

/-- Whether a field carries the symbol's own identity: it is named for identity alone, for this
symbol's identity, or has the one type that names this symbol's identity. -/
def ownsIdentityField (s : Symbol) (field : FieldDeclaration) : Bool :=
  match splitWords field.name with
  | [] => false
  | words =>
    let own := normalizeName s.name
    (match words with
      | [word] => word ∈ identityWords
      | _ => false) ||
    (words.getLast?.any (· ∈ identityWords) && String.join words.dropLast == own) ||
    (match (TypeReference.of field.declaredType).names with
      | [name] => normalizeName (SymbolGraph.simpleName name) == own ++ "id"
      | _ => false)

def identityFields (s : Symbol) : List FieldDeclaration := s.fields.filter s.ownsIdentityField

def hasIdentity (s : Symbol) : Bool := s.fields.any s.ownsIdentityField

/-- The normalized name that a field refers to by identity: `orderId`, `order_id` and a field of
type `OrderId` refer to `order`. -/
def identityReferenceTarget (s : Symbol) (field : FieldDeclaration) : Option String :=
  if s.ownsIdentityField field then none
  else
    (identityOwner? (splitWords field.name)).or
      (match (TypeReference.of field.declaredType).names with
        | [name] => identityOwner? (splitWords (SymbolGraph.simpleName name))
        | _ => none)

def isConstructor (s : Symbol) (method : MethodDeclaration) : Bool :=
  method.name ∈ constructorNames || method.name == s.name

end Symbol

/-- Whether a method is a getter, a setter or a predicate, by mark or by name. -/
def MethodDeclaration.isAccessorLike (method : MethodDeclaration) : Bool :=
  method.isAccessor ||
    match splitWords method.name with
    | verb :: _ :: _ => verb ∈ accessorVerbs
    | _ => false

namespace Symbol

/-- Methods that are neither special nor constructors. -/
def ordinaryMethods (s : Symbol) : List MethodDeclaration :=
  s.methods.filter fun m => !isSpecialName m.name && !s.isConstructor m

def behavioralMethods (s : Symbol) : List MethodDeclaration :=
  s.ordinaryMethods.filter fun m => !m.isAccessorLike

def accessorMethods (s : Symbol) : List MethodDeclaration :=
  s.ordinaryMethods.filter (·.isAccessorLike)

/-- Whether the name ends with one of the suffixes, in any case, and is more than the suffix. -/
def nameEndsWith (s : Symbol) (suffixes : List String) : Bool :=
  let lowered := Text.lower s.name
  suffixes.any fun suffix =>
    let suffix := Text.lower suffix
    Text.endsWith lowered.toList suffix.toList && lowered != suffix

/-- Whether a symbol holds neither identity nor mutable state, injected collaborators aside. -/
def isStateless (s : Symbol) : Bool :=
  !s.hasIdentity && s.fields.all fun f => isCollaboratorType f.declaredType || !f.isMutable

def allFieldsImmutable (s : Symbol) : Bool :=
  !s.fields.isEmpty && s.fields.all fun f => !f.isMutable

/-- Whether a symbol is an interface, or abstract with nothing but abstract methods. -/
def isInterfaceLike (s : Symbol) : Bool :=
  s.kind == .interfaceType ||
    (s.isAbstract &&
      let methods := s.methods.filter fun m => !isSpecialName m.name
      !methods.isEmpty && methods.all (·.isAbstract))

end Symbol

namespace SymbolGraph

variable (g : SymbolGraph)

def methodReferences (symbol : Symbol) (method : MethodDeclaration) : List String :=
  firstOccurrences ((method.parameterTypes.map some ++ [method.returnType]).flatMap
    (g.resolveType symbol))

/-- Whether a symbol has identity, is no interface and no part of another symbol, and owns parts or
behaves. -/
def isAggregateShaped (symbol : Symbol) : Bool :=
  symbol.hasIdentity && !symbol.isInterfaceLike &&
    (g.incomingOf symbol.id .composition).isEmpty &&
    (!(g.outgoingOf symbol.id .composition).isEmpty || !symbol.behavioralMethods.isEmpty)

def nameBefore? (suffix name : String) : Option String :=
  let chars := name.toList
  let ending := suffix.toList
  if Text.endsWith chars ending && ending.length < chars.length then
    some (String.ofList (chars.take (chars.length - ending.length)))
  else none

/-- The identity-bearing symbols that the collection-like methods of a symbol mention. -/
def methodTargets (symbol : Symbol) : List String :=
  (symbol.methods.filter fun m => leadingVerb m.name ∈ repositoryVerbs).flatMap fun m =>
    (g.methodReferences symbol m).filter fun id => (g.get? id).any (·.hasIdentity)

def nameTargets (symbol : Symbol) : List String :=
  (["Repository", "Repo"].filterMap fun suffix =>
    (nameBefore? suffix symbol.name).bind fun name => g.lookup name (some symbol)).filter
      (· ≠ symbol.id)

def repositoryTargets (symbol : Symbol) : List String :=
  textSet (g.methodTargets symbol ++ g.nameTargets symbol)

end SymbolGraph

end TacticalDesign
