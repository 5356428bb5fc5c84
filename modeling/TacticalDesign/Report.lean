import TacticalDesign.Finding
import TacticalDesign.RenameHint
import TacticalDesign.SourceUnit
/-!
# Reports

Everything a scan found, in one value and in one document.
-/

namespace TacticalDesign

structure ScanReport where
  registryVersion : String
  registryFingerprint : String
  /-- Whether every unit came to an end. -/
  complete : Bool
  unitCount : Int
  processedPaths : List String
  classifications : List Classification
  findings : List Finding
  skipped : List SkippedUnit
  /-- The changes against a baseline; none without a baseline. -/
  changes : Option (List ChangeRecord) := none
  renameHints : List RenameHint := []
  unverifiedSymbols : List String := []
  graph : SymbolGraph

structure CoverageError where

def CoverageError.message (_ : CoverageError) : String :=
  "Classifications must cover every symbol exactly once."

namespace ScanReport

def schemaVersion : String := "1.0"

/-- Accepts a report whose classifications cover the symbols one to one, and puts them in order. -/
def check (r : ScanReport) : Except CoverageError ScanReport :=
  if sortTexts (r.classifications.map (·.symbolId)) = r.graph.ids then
    .ok { r with
      classifications := r.classifications.mergeSort fun a b => textLe a.symbolId b.symbolId }
  else .error {}

def countsJson (r : ScanReport) : Json :=
  .object [("units", .int r.unitCount), ("processed_units", .int r.processedPaths.length),
    ("symbols", .int r.classifications.length),
    ("relationships", .int r.graph.relationships.length), ("findings", .int r.findings.length),
    ("skipped", .int r.skipped.length)]

def diagnosticsJson (r : ScanReport) : Json :=
  .object [("skipped", .array (r.skipped.map (·.toJson))),
    ("rename_hints", .array (r.renameHints.map (·.toJson))),
    ("unverified_symbols", .strings r.unverifiedSymbols)]

def toJson (r : ScanReport) : Json :=
  .object [("schema_version", .string schemaVersion),
    ("registry", .object [("version", .string r.registryVersion),
      ("fingerprint", .string r.registryFingerprint)]),
    ("complete", .bool r.complete), ("counts", r.countsJson),
    ("classifications", .object (r.classifications.map fun c => (c.symbolId, c.toJson))),
    ("findings", .array (r.findings.map (·.toJson))),
    ("changes", ChangeRecord.optionalJson (fun cs => .array (cs.map (·.toJson))) r.changes),
    ("diagnostics", r.diagnosticsJson)]

end ScanReport

end TacticalDesign
