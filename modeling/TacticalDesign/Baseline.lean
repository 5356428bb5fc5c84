import TacticalDesign.Classification
import TacticalDesign.Graph
import TacticalDesign.SymbolDocument
import TacticalDesign.Text.Quoted
/-!
# Baselines

A classified graph of an earlier run, under a schema tag. Tags of one major part are compatible.
-/

namespace TacticalDesign

structure Baseline where
  /-- The schema tag; none where it is missing. -/
  schemaVersion : Option String
  registryVersion : String
  registryFingerprint : String
  graph : SymbolGraph
  classifications : List Classification
  rootPath : String := ""

structure SchemaMismatch where
  found : Option String
  deriving DecidableEq, Repr

namespace Baseline

def currentSchema : String := "1.0"

/-- The part of a tag before its first dot. -/
def majorPart (tag : String) : List Char := Text.beforeFirst '.' tag.toList

/-- Whether a tag is there and of the current major part. -/
def isReadable (tag : Option String) : Bool :=
  match tag with
  | none => false
  | some tag => !tag.isEmpty && majorPart tag == majorPart currentSchema

def checkSchema (tag : Option String) : Except SchemaMismatch Unit :=
  if isReadable tag then .ok () else .error ⟨tag⟩

def toJson (b : Baseline) : Json :=
  .object [("schema_version", .optionalString b.schemaVersion),
    ("registry_version", .string b.registryVersion),
    ("registry_fingerprint", .string b.registryFingerprint),
    ("root_path", .string b.rootPath),
    ("symbols", .array (b.graph.symbols.map (·.toJson))),
    ("relationships", .array (b.graph.relationships.map (·.toJson))),
    ("classifications", .array (b.classifications.map (·.toJson)))]

end Baseline

def SchemaMismatch.message (m : SchemaMismatch) : String :=
  let found := match m.found with
    | none => "None"
    | some tag => Text.quoted tag
  "Baseline schema version " ++ found ++ " is incompatible with " ++
    Text.quoted Baseline.currentSchema ++ "."

end TacticalDesign
