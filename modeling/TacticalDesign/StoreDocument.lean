import TacticalDesign.Document
import TacticalDesign.RunStore
/-!
# Store documents

The file of a run store is a JSON document of its tables. A row is a list of its columns in order.
-/

namespace TacticalDesign

namespace RunRow

def toJson (r : RunRow) : Json :=
  .array [.int r.id, .string r.rootPath, .string r.schemaVersion, .string r.registryVersion,
    .string r.registryFingerprint, .string r.status, .int r.symbolCount, .int r.findingCount,
    .int r.skippedCount, .string r.baselineText]

def ofJson? : Json → Option RunRow
  | .array [.number (.int id), .string rootPath, .string schemaVersion, .string registryVersion,
      .string registryFingerprint, .string status, .number (.int symbolCount),
      .number (.int findingCount), .number (.int skippedCount), .string baselineText] =>
    some ⟨id.toNat, rootPath, schemaVersion, registryVersion, registryFingerprint, status,
      symbolCount.toNat, findingCount.toNat, skippedCount.toNat, baselineText⟩
  | _ => none

end RunRow

namespace ClassificationRow

def toJson (r : ClassificationRow) : Json :=
  .array [.int r.id, .int r.runId, .string r.symbolId, .string r.role, .string r.confidence,
    .float r.score, .float r.support, .bool r.ambiguous, .string r.evidence, .string r.rationale]

def ofJson? : Json → Option ClassificationRow
  | .array [.number (.int id), .number (.int runId), .string symbolId, .string role,
      .string confidence, .number (.float score), .number (.float support), .bool ambiguous,
      .string evidence, .string rationale] =>
    some ⟨id.toNat, runId.toNat, symbolId, role, confidence, score, support, ambiguous, evidence,
      rationale⟩
  | _ => none

end ClassificationRow

namespace FindingRow

def toJson (r : FindingRow) : Json :=
  .array [.int r.id, .int r.runId, .string r.antiPattern, .string r.ruleId, .string r.severity,
    .string r.symbolIds, .string r.evidence, .string r.rationale]

def ofJson? : Json → Option FindingRow
  | .array [.number (.int id), .number (.int runId), .string antiPattern, .string ruleId,
      .string severity, .string symbolIds, .string evidence, .string rationale] =>
    some ⟨id.toNat, runId.toNat, antiPattern, ruleId, severity, symbolIds, evidence, rationale⟩
  | _ => none

end FindingRow

namespace Table

variable {α : Type}

/-- A table that is missing is null, one without columns is true. -/
def toJson (row : α → Json) : Table α → Json
  | absent => .null
  | idsOnly => .bool true
  | rows items => .array (items.map row)

def ofJson? (row? : Json → Option α) : Json → Option (Table α)
  | .null => some absent
  | .bool true => some idsOnly
  | .array items => (items.mapM row?).map rows
  | _ => none

end Table

namespace RunTables

def toJson (t : RunTables) : Json :=
  .object [("runs", t.runs.toJson RunRow.toJson),
    ("classifications", t.classifications.toJson ClassificationRow.toJson),
    ("findings", t.findings.toJson FindingRow.toJson)]

def ofJson? (document : Json) : Option RunTables := do
  let runs ← Table.ofJson? RunRow.ofJson? (← document.get? "runs")
  let classifications ← Table.ofJson? ClassificationRow.ofJson? (← document.get? "classifications")
  let findings ← Table.ofJson? FindingRow.ofJson? (← document.get? "findings")
  return ⟨runs, classifications, findings⟩

def toBytes (t : RunTables) : List UInt8 := Text.Utf8.encode t.toJson.lineText.toList

def ofBytes? (bytes : List UInt8) : Option RunTables :=
  match Document.parse bytes with
  | .ok document => ofJson? document
  | .error _ => none

end RunTables

end TacticalDesign
