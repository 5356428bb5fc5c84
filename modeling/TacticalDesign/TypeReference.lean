import TacticalDesign.Graph
import TacticalDesign.NameWords
/-!
# Type references

What the text of a declared type mentions: dotted identifiers, told apart into collections,
wrappers, primitives and names of other types.
-/

namespace TacticalDesign

def primitiveTypes : List String :=
  ["str", "string", "int", "integer", "long", "short", "float", "double", "decimal", "bigdecimal",
    "biginteger", "number", "bool", "boolean", "bytes", "char", "date", "datetime", "time",
    "instant", "localdate", "localdatetime"]

def collectionTypes : List String :=
  ["list", "set", "frozenset", "tuple", "sequence", "mutablesequence", "iterable", "iterator",
    "collection", "array", "arraylist", "linkedlist", "hashset", "dict", "mapping",
    "mutablemapping", "map", "hashmap", "ilist", "ienumerable", "icollection", "vec"]

def wrapperTypes : List String :=
  ["optional", "union", "final", "classvar", "annotated", "nullable", "none", "null", "readonly",
    "any", "object", "void"]

namespace TypeText

open Text

/-- Characters of an identifier behind its first one: word characters and dots. -/
def isPart (c : Char) : Bool := isWordChar c || c = '.'

def isStart (c : Char) : Bool := isAsciiLetter c || c = '_'

/-- The identifiers of a text in order; `current` holds, in reverse, the one that is being read. -/
def scan (current : List Char) : List Char → List (List Char)
  | [] => if current.isEmpty then [] else [current.reverse]
  | c :: rest =>
    if current.isEmpty then
      if isStart c then scan [c] rest else scan [] rest
    else if isPart c then scan (c :: current) rest
    else current.reverse :: scan [] rest

def lowerSimple (identifier : String) : String := lower (SymbolGraph.simpleName identifier)

def identifiers (text : String) : List String := (scan [] text.toList).map String.ofList

def hasArraySuffix (text : String) : Bool := isInfix ['[', ']'] text.toList

def isOrdinary (identifier : String) : Bool :=
  let simple := lowerSimple identifier
  !(simple ∈ collectionTypes) && !(simple ∈ wrapperTypes) && !(simple ∈ primitiveTypes)

end TypeText

/-- The names that a declared type mentions beyond collections, wrappers and primitives, in order
of first appearance, and whether it holds one or many. -/
structure TypeReference where
  names : List String
  cardinality : Cardinality
  deriving DecidableEq, Repr

namespace TypeReference

open TypeText

def ofText (text : String) : TypeReference where
  names := firstOccurrences ((identifiers text).filter isOrdinary)
  cardinality :=
    if hasArraySuffix text || (identifiers text).any (fun i => lowerSimple i ∈ collectionTypes)
    then .many else .one

/-- A missing type mentions nothing. -/
def of : Option String → TypeReference
  | some text => ofText text
  | none => ⟨[], .one⟩

end TypeReference

open TypeText in
def isPrimitiveType : Option String → Bool
  | none => false
  | some text =>
    match ((identifiers text).map lowerSimple).filter (fun name => !(name ∈ wrapperTypes)) with
    | [name] => name ∈ primitiveTypes
    | _ => false

def collaboratorSuffixes : List String :=
  ["repository", "repo", "port", "gateway", "client", "service", "policy", "factory", "publisher",
    "provider", "clock"]

def isCollaboratorType (declaredType : Option String) : Bool :=
  (TypeReference.of declaredType).names.any fun name =>
    collaboratorSuffixes.any fun suffix =>
      Text.endsWith (TypeText.lowerSimple name).toList suffix.toList

/-- The symbols that a declared type mentions, seen from a symbol and without itself. -/
def SymbolGraph.resolveType (g : SymbolGraph) (symbol : Symbol) (declaredType : Option String) :
    List String :=
  firstOccurrences ((TypeReference.of declaredType).names.filterMap fun name =>
    (g.lookup name (some symbol)).filter (· ≠ symbol.id))

end TacticalDesign
