import TacticalDesign.BaselineReader
import TacticalDesign.Json.Parser
import TacticalDesign.Json.Printer
import TacticalDesign.Scan
/-!
# The run store

Runs are kept in three tables. A run is stored whole or not at all, and every run but an incomplete
one can be read back as a baseline.
-/

namespace TacticalDesign

inductive RunStatus where
  | completed
  | completedWithErrors
  | incomplete
  deriving DecidableEq, Repr

namespace RunStatus

def word : RunStatus → String
  | completed => "completed"
  | completedWithErrors => "completed_with_errors"
  | incomplete => "incomplete"

def ofReport (r : ScanReport) : RunStatus :=
  if !r.complete then incomplete
  else if r.skipped.isEmpty then completed
  else completedWithErrors

end RunStatus

structure RunRow where
  id : Nat
  rootPath : String
  schemaVersion : String
  registryVersion : String
  registryFingerprint : String
  status : String
  symbolCount : Nat
  findingCount : Nat
  skippedCount : Nat
  baselineText : String
  deriving DecidableEq, Repr

structure ClassificationRow where
  id : Nat
  runId : Nat
  symbolId : String
  role : String
  confidence : String
  score : Float
  support : Float
  ambiguous : Bool
  evidence : String
  rationale : String

structure FindingRow where
  id : Nat
  runId : Nat
  antiPattern : String
  ruleId : String
  severity : String
  symbolIds : String
  evidence : String
  rationale : String
  deriving DecidableEq, Repr

/-- A table is missing, has nothing but its two id columns, or holds rows. -/
inductive Table (α : Type) where
  | absent
  | idsOnly
  | rows (items : List α)

structure RunTables where
  runs : Table RunRow := .absent
  classifications : Table ClassificationRow := .absent
  findings : Table FindingRow := .absent

/-- The file of a store: tables, or bytes that are no tables. -/
inductive StoreFile where
  | tables (t : RunTables)
  | foreign

inductive StoreError where
  | notADatabase
  | noSuchTable (table : String)
  | tableExists (table : String)
  | noSuchColumn (column : String)
  | tableLacksColumn (table column : String)
  | missingValue (table column : String)
  | runNotFound (id : Int)
  | runIncomplete (id : Int)
  | idTooLarge
  | invalidJson (problem : String)
  | tooManyDigits (problem : String)
  | unreadable (e : BaselineError)

def StoreError.message : StoreError → String
  | notADatabase => "file is not a database"
  | noSuchTable table => "no such table: " ++ table
  | tableExists table => "table " ++ table ++ " already exists"
  | noSuchColumn column => "no such column: " ++ column
  | tableLacksColumn table column => "table " ++ table ++ " has no column named " ++ column
  | missingValue table column => "NOT NULL constraint failed: " ++ table ++ "." ++ column
  | runNotFound id => "Run not found: " ++ Number.intText id
  | runIncomplete id => "Run " ++ Number.intText id ++ " is incomplete and has no baseline"
  | idTooLarge => "Python int too large to convert to SQLite INTEGER"
  | invalidJson problem => "Stored baseline is not valid JSON: " ++ problem
  | tooManyDigits problem => problem
  | unreadable e => e.message

structure RunSummary where
  runId : Nat
  symbolCount : Nat
  findingCount : Nat
  skippedCount : Nat
  status : RunStatus
  deriving DecidableEq, Repr

namespace RunSummary

def toJson (s : RunSummary) : Json :=
  .object [("run_id", .int s.runId), ("symbol_count", .int s.symbolCount),
    ("finding_count", .int s.findingCount), ("skipped_count", .int s.skippedCount),
    ("status", .string s.status.word)]

end RunSummary

namespace Table

variable {α : Type}

def ensure : Table α → Table α
  | absent => rows []
  | t => t

def items : Table α → List α
  | rows items => items
  | _ => []

/-- The rows, where the table can be read by a column that only a full table has. -/
def read (name column : String) : Table α → Except StoreError (List α)
  | absent => .error (.noSuchTable name)
  | idsOnly => .error (.noSuchColumn column)
  | rows items => .ok items

def writable (name column : String) : Table α → Except StoreError (List α)
  | absent => .error (.noSuchTable name)
  | idsOnly => .error (.tableLacksColumn name column)
  | rows items => .ok items

end Table

namespace RunTables

/-- Creates what is missing; a table of runs without its columns cannot be used. -/
def ensure (t : RunTables) : RunTables × Option StoreError :=
  let t : RunTables := ⟨t.runs.ensure, t.classifications.ensure, t.findings.ensure⟩
  match t.runs with
  | .idsOnly => (t, some (.noSuchColumn "root_path"))
  | _ => (t, none)

def nextId (ids : List Nat) : Nat := ids.foldl max 0 + 1

def classificationRow (runId id : Nat) (c : Classification) : ClassificationRow where
  id := id
  runId := runId
  symbolId := c.symbolId
  role := c.role.word
  confidence := c.confidence.word
  score := c.score.toFloat
  support := c.support.toFloat
  ambiguous := c.ambiguous
  evidence := String.intercalate "," c.evidence
  rationale := c.rationale

def findingRow (runId id : Nat) (f : Finding) : FindingRow where
  id := id
  runId := runId
  antiPattern := f.antiPattern
  ruleId := f.ruleId
  severity := f.severity.word
  symbolIds := String.intercalate "," f.symbolIds
  evidence := String.intercalate "; " f.evidence
  rationale := f.rationale

def runRow (id : Nat) (rootPath : String) (r : ScanReport) : RunRow where
  id := id
  rootPath := rootPath
  schemaVersion := Baseline.currentSchema
  registryVersion := r.registryVersion
  registryFingerprint := r.registryFingerprint
  status := (RunStatus.ofReport r).word
  symbolCount := r.classifications.length
  findingCount := r.findings.length
  skippedCount := r.skipped.length
  baselineText := (r.capture rootPath).toJson.lineText

def number {α β : Type} (row : Nat → α → β) (first : Nat) : List α → List β
  | [] => []
  | a :: rest => row first a :: number row (first + 1) rest

/-- A float that is no number has no place in a table. -/
def checkRow (row : ClassificationRow) : Except StoreError Unit :=
  if row.score.isNaN then .error (.missingValue "classifications" "score")
  else if row.support.isNaN then .error (.missingValue "classifications" "support")
  else .ok ()

def insert (t : RunTables) (rootPath : String) (r : ScanReport) :
    Except StoreError (RunTables × RunSummary) := do
  let runs ← t.runs.writable "runs" "created_at"
  let runId := nextId (runs.map (·.id))
  let old ← t.classifications.writable "classifications" "symbol_id"
  let classifications :=
    number (classificationRow runId) (nextId (old.map (·.id))) r.classifications
  classifications.forM checkRow
  let oldFindings ← t.findings.writable "findings" "anti_pattern"
  let findings := number (findingRow runId) (nextId (oldFindings.map (·.id))) r.findings
  return (⟨.rows (runs ++ [runRow runId rootPath r]), .rows (old ++ classifications),
      .rows (oldFindings ++ findings)⟩,
    ⟨runId, r.classifications.length, r.findings.length, r.skipped.length, .ofReport r⟩)

end RunTables

namespace StoreFile

def empty : StoreFile := tables {}

/-- The file with its tables, or why they cannot be used. Tables stay created either way. -/
def open? : StoreFile → StoreFile × Except StoreError RunTables
  | foreign => (foreign, .error .notADatabase)
  | tables t =>
    match t.ensure with
    | (t, some e) => (tables t, .error e)
    | (t, none) => (tables t, .ok t)

/-- Keeps a run. When anything goes wrong, no row is left behind. -/
def saveRun (file : StoreFile) (rootPath : String) (r : ScanReport) :
    StoreFile × Except StoreError RunSummary :=
  match file.open? with
  | (file, .error e) => (file, .error e)
  | (file, .ok t) =>
    match t.insert rootPath r with
    | .error e => (file, .error e)
    | .ok (t, summary) => (tables t, .ok summary)

def decode (text : String) : Except StoreError Baseline :=
  match Json.parse text.toList with
  | .error (.tooManyDigits digits place) =>
    .error (.tooManyDigits (Json.ParseError.message text.toList (.tooManyDigits digits place)))
  | .error e => .error (.invalidJson (e.message text.toList))
  | .ok document =>
    match Baseline.ofJson document with
    | .error e => .error (.unreadable e)
    | .ok b => .ok b

def idLimit : Int := 0x8000000000000000

def idFits (id : Int) : Bool := -idLimit ≤ id && id < idLimit

def loadFrom (t : RunTables) (id : Int) : Except StoreError Baseline :=
  if !idFits id then .error .idTooLarge
  else
    match t.runs.items.find? fun row => (row.id : Int) = id with
    | none => .error (.runNotFound id)
    | some row =>
      if row.status = RunStatus.incomplete.word then .error (.runIncomplete id)
      else decode row.baselineText

def load (file : StoreFile) (id : Int) : StoreFile × Except StoreError Baseline :=
  match file.open? with
  | (file, .error e) => (file, .error e)
  | (file, .ok t) => (file, loadFrom t id)

/-- The newest run of a root that is not incomplete. -/
def latest? (t : RunTables) (rootPath : String) : Option RunRow :=
  (t.runs.items.filter fun row =>
    row.rootPath = rootPath && row.status ≠ RunStatus.incomplete.word).getLast?

def latestText? (file : StoreFile) (rootPath : String) : Option String :=
  match file.open?.2 with
  | .ok t => (latest? t rootPath).map (·.baselineText)
  | .error _ => none

def loadLatest (file : StoreFile) (rootPath : String) :
    StoreFile × Except StoreError (Option Baseline) :=
  match file.open? with
  | (file, .error e) => (file, .error e)
  | (file, .ok t) =>
    match latest? t rootPath with
    | none => (file, .ok none)
    | some row => (file, (decode row.baselineText).map some)

/-! ## Direct access -/

def direct (file : StoreFile) : Except StoreError RunTables :=
  match file with
  | foreign => .error .notADatabase
  | tables t => .ok t

def runRowJson (r : RunRow) : Json :=
  .array [.int r.id, .string r.rootPath, .string r.schemaVersion, .string r.registryVersion,
    .string r.registryFingerprint, .string r.status, .int r.symbolCount, .int r.findingCount,
    .int r.skippedCount]

def classificationRowJson (r : ClassificationRow) : Json :=
  .array [.int r.id, .int r.runId, .string r.symbolId, .string r.role, .string r.confidence,
    .float r.score, .float r.support, .int (if r.ambiguous then 1 else 0), .string r.evidence,
    .string r.rationale]

def findingRowJson (r : FindingRow) : Json :=
  .array [.int r.id, .int r.runId, .string r.antiPattern, .string r.ruleId, .string r.severity,
    .string r.symbolIds, .string r.evidence, .string r.rationale]

def existing {α : Type} (name : String) : Table α → Except StoreError (List α)
  | .absent => .error (.noSuchTable name)
  | t => .ok t.items

def rowsJson (file : StoreFile) : Except StoreError Json := do
  let t ← file.direct
  let runs ← t.runs.read "runs" "root_path"
  let classifications ← existing "classifications" t.classifications
  let findings ← existing "findings" t.findings
  return .object [("runs", .array (runs.map runRowJson)),
    ("classifications", .array (classifications.map classificationRowJson)),
    ("findings", .array (findings.map findingRowJson))]

def runCount (file : StoreFile) : Except StoreError Nat := do
  return (← existing "runs" (← file.direct).runs).length

def baselineText? (file : StoreFile) (id : Int) : Except StoreError (Option String) := do
  let runs ← (← file.direct).runs.read "runs" "baseline_json"
  return (runs.find? fun row => (row.id : Int) = id).map (·.baselineText)

def editRun (file : StoreFile) (column : String) (id : Int) (edit : RunRow → RunRow) :
    Except StoreError StoreFile := do
  let t ← file.direct
  let runs ← t.runs.read "runs" column
  let edited := runs.map fun row => if (row.id : Int) = id then edit row else row
  return tables { t with runs := .rows edited }

def createBroken (file : StoreFile) (name : String) : Except StoreError StoreFile := do
  let t ← file.direct
  if name = "runs" then
    match t.runs with
    | .absent => return tables { t with runs := .idsOnly }
    | _ => throw (.tableExists name)
  else if name = "classifications" then
    match t.classifications with
    | .absent => return tables { t with classifications := .idsOnly }
    | _ => throw (.tableExists name)
  else if name = "findings" then
    match t.findings with
    | .absent => return tables { t with findings := .idsOnly }
    | _ => throw (.tableExists name)
  else return tables t

end StoreFile

end TacticalDesign
