import TacticalDesign.AliasArgument
import TacticalDesign.Command.Arguments
import TacticalDesign.Command.Outcome
import TacticalDesign.Document
import TacticalDesign.Ignore.Matching
import TacticalDesign.Project
/-!
# Runs

A run reads arguments, sets a scan up, scans, stores and shows. It stops at the first failure; what
was stored before stays stored. A report on an interrupted scan is shown and kept in the store, but
never written as a baseline. What a run takes from elsewhere are its tools.
-/

namespace TacticalDesign.Command

/-- How the units of a declaration document are read. -/
abbrev FrontEnd :=
  Except FileError (List UInt8) → Except DeclarationDocumentError (List SourceUnit)

/-- How deep things may be nested before the stack of the program is exhausted. -/
structure Limits where
  /-- Brackets in a file. -/
  documents : Nat
  /-- Brackets in a baseline that a store holds. -/
  stored : Nat
  directories : Nat

structure Tools where
  frontEnd : FrontEnd
  ratio : NameRatio
  ignoring : IgnoreMatcher
  /-- What is wrong with the markup in a text. -/
  markupFault? : String → Option String
  limits : Limits

def given? (argument : Option String) : Option String := argument.filter (· ≠ "")

/-! ## Setting up -/

def stopWith {ε α : Type} (stop : ε → Stop) : Except ε α → Except Stop α
  | .ok a => .ok a
  | .error e => .error (stop e)

def ofConfigError (e : ConfigError) : Stop :=
  match e with
  | .tooLarge => .aborted .numberTooLarge
  | e => .reported e.message

def ofConfigDocumentError (e : ConfigDocumentError) : Stop :=
  match e with
  | .content c => ofConfigError c
  | e => .reported e.message

def ofOverridesDocumentError (e : OverridesDocumentError) : Stop :=
  match e with
  | .content .tooLarge => .aborted .numberTooLarge
  | .content (.escaped _) => .aborted .interrupt
  | e => .reported e.message

def ofProjectError (e : ProjectError) : Stop :=
  match e with
  | .pattern (.unforeseen message) => .aborted (.pattern message)
  | e => .reported e.message

def within (limit depth : Nat) : Except Stop Unit :=
  if limit < depth then .error (.aborted .nesting) else .ok ()

def documentAt (limits : Limits) (t : FileTree) (path : String) :
    Except Stop (Except FileError (List UInt8)) := do
  let content := t.read (.ofText path)
  within limits.documents (Document.depth content)
  return content

/-- The configuration of a document, if one is given, with the options in place of its settings. -/
def configOf (limits : Limits) (t : FileTree) (a : ScanArguments) : Except Stop ScanConfig := do
  let config ← match given? a.config with
    | some path =>
      stopWith ofConfigDocumentError (ScanConfig.ofDocument (← documentAt limits t path))
    | none => pure {}
  if a.workers.isNone && a.unitTimeout.isNone then return config
  else
    stopWith ofConfigError ({ config with
      maxWorkers := a.workers.getD config.maxWorkers
      unitTimeout := a.unitTimeout.getD config.unitTimeout : ScanConfig }).check

def registryOf (limits : Limits) (t : FileTree) (a : ScanArguments) : Except Stop RuleRegistry := do
  match given? a.rules with
  | some path =>
    stopWith ofOverridesDocumentError
      (RuleRegistry.standard.withDocument (← documentAt limits t path))
  | none => return .standard

def existing (t : FileTree) (path : Path) : Except Stop (List String × Entry) :=
  match t.lookup path with
  | .error e => .error (.reported e.message)
  | .ok none => .error (.reported ("Path does not exist: " ++ path.text))
  | .ok (some found) => .ok found

def unitsOf (tools : Tools) (t : FileTree) (s : Source) :
    Except Stop (String × List SourceUnit) :=
  match s with
  | .project "" => .error (.aborted .noSource)
  | .project path => do
    let path := Path.ofText path
    let (place, entry) ← existing t path
    match entry with
    | .directory =>
      within tools.limits.directories (t.depthBelow place)
      let units ← stopWith ofProjectError (Project.discover tools.ignoring t path)
      return ((FileTree.pathOf place).text, units)
    | _ => throw (.reported ("Path is not a directory: " ++ path.text))
  | .declarations path => do
    let (place, _) ← existing t (.ofText path)
    let units ← stopWith (fun e : DeclarationDocumentError => .reported e.message)
      (tools.frontEnd (← documentAt tools.limits t path))
    return ((FileTree.pathOf place).text, units)

structure Setup where
  engine : ScanEngine
  aliases : Aliases
  rootPath : String
  units : List SourceUnit

def Setup.of (tools : Tools) (t : FileTree) (r : ScanRequest) : Except Stop Setup := do
  let aliases ← stopWith (fun e : AliasArgumentError => .reported e.message)
    (Aliases.ofArguments r.arguments.aliases)
  let config ← configOf tools.limits t r.arguments
  let registry ← registryOf tools.limits t r.arguments
  let (rootPath, units) ← unitsOf tools t r.source
  return ⟨⟨config, registry, tools.ratio⟩, aliases, rootPath, units⟩

/-! ## Stores -/

/-- Uses the store that a path leads to; whatever it has become is kept. -/
def withStore {α : Type} (t : FileTree) (path : String)
    (use : StoreFile → StoreFile × Except StoreError α) : FileTree × Except Stop α :=
  match t.openStore (.ofText path) with
  | .error e => (t, .error (.reported e.message))
  | .ok none => (t, .error (.aborted .storeUnopenable))
  | .ok (some found) =>
    let (content, answer) := use found.content
    (t.keepStore found.place content,
      stopWith (fun e : StoreError => .reported e.message) answer)

/-- The document of the newest run of a source that a store holds. -/
def storedText? (t : FileTree) (path rootPath : String) : Option String :=
  match t.openStore (.ofText path) with
  | .ok (some found) => found.content.latestText? rootPath
  | _ => none

/-- The baseline to compare with: a document, or the newest run of the same source in a store. -/
def baselineOf (limits : Limits) (t : FileTree) (reference : Option Reference)
    (rootPath : String) : FileTree × Except Stop (Option Baseline) :=
  match reference with
  | none => (t, .ok none)
  | some (.file "") => (t, .ok none)
  | some (.store "") => (t, .ok none)
  | some (.file path) =>
    (t, do
      let content ← documentAt limits t path
      stopWith (fun e : BaselineDocumentError => .reported e.message)
        ((Baseline.ofDocument content).map some))
  | some (.store path) =>
    let depth := ((storedText? t path rootPath).map fun text => Json.depth text.toList).getD 0
    let (t, answer) := withStore t path fun file => file.loadLatest rootPath
    (t, within limits.stored depth >>= fun _ => answer)

def bytesOf (text : String) : List UInt8 := Text.Utf8.encode text.toList

/-- Writes the report as a baseline, if it is complete and a file is named. -/
def saveBaseline (t : FileTree) (a : ScanArguments) (r : ScanReport) (rootPath : String) :
    Except Stop FileTree :=
  match given? a.saveBaseline with
  | none => .ok t
  | some path =>
    if r.complete then
      stopWith (fun e : FileError => .reported e.message)
        (t.writeFile (.ofText path) (bytesOf (r.capture rootPath).toJson.indentedText))
    else .ok t

def saveRun (t : FileTree) (a : ScanArguments) (r : ScanReport) (rootPath : String) :
    FileTree × Except Stop Unit :=
  match given? a.store with
  | none => (t, .ok ())
  | some path =>
    let (t, answer) := withStore t path fun file => file.saveRun rootPath r
    (t, answer.map fun _ => ())

def saveAll (t : FileTree) (a : ScanArguments) (r : ScanReport) (rootPath : String) :
    FileTree × Except Stop Unit :=
  match saveBaseline t a r rootPath with
  | .error stop => (t, .error stop)
  | .ok t => saveRun t a r rootPath

/-! ## Running -/

def ofScanError (e : ScanError) : Stop :=
  match e with
  | .rule .tooLarge => .aborted .numberTooLarge
  | .rule (.escaped _) => .aborted .interrupt
  | .build .waitTooLong => .aborted .waitTooLong
  | .missingSymbol id => .aborted (.missingSymbol id)
  | e => .reported e.message

def notesOn (r : ScanReport) : List String :=
  (r.skipped.map fun s =>
    "skipped_unit: " ++ s.path ++ " (" ++ s.kind.word ++ "): " ++ s.reason) ++
  (r.unverifiedSymbols.map fun id =>
    "unverified_symbol: " ++ id ++ " (origin unit skipped)") ++
  (if r.complete then [] else ["scan incomplete: results cover a partial graph"])

def present (t : FileTree) (a : ScanArguments) (r : ScanReport) :
    Except Stop (FileTree × List Display) :=
  match a.format, given? a.output with
  | .table, _ => .ok (t, Display.ofReport r)
  | .json, none => .ok (t, [.text r.toJson.indentedText])
  | .json, some path =>
    match t.writeFile (.ofText path) (bytesOf r.toJson.indentedText) with
    | .ok t => .ok (t, [])
    | .error .nullInPath => .error (.aborted (.unusablePath .nullInPath))
    | .error _ => .error (.reported ("Failed to write JSON output file: " ++ path))

def Tools.faultOf? (tools : Tools) (d : Display) : Option String :=
  d.marked.findSome? tools.markupFault?

/-- The displays that are shown, up to the first with a fault, and that fault. -/
def Tools.showAll (tools : Tools) : List Display → List Display × Option String
  | [] => ([], none)
  | d :: rest =>
    match tools.faultOf? d with
    | some fault => ([], some fault)
    | none =>
      let (shown, fault) := tools.showAll rest
      (d :: shown, fault)

def conclude (tools : Tools) (t : FileTree) (a : ScanArguments) (r : ScanReport)
    (rootPath : String) : Outcome :=
  let notes := notesOn r
  match saveAll t a r rootPath with
  | (t, .error stop) => .stopped t notes (stop.under "Failed to store run: ")
  | (t, .ok _) =>
    match present t a r with
    | .error stop => .stopped t notes stop
    | .ok (t, displays) =>
      match tools.showAll displays with
      | (shown, none) => ⟨t, shown, notes, .exit (if r.complete then .success else .interrupted)⟩
      | (shown, some fault) => ⟨t, shown, notes, .abort (.markup fault)⟩

def scanStop (e : ScanError) : Stop := (ofScanError e).under "Scan failed: "

def scan (tools : Tools) (t : FileTree) (request : ScanRequest) : Outcome :=
  match Setup.of tools t request with
  | .error stop => .stopped t [] stop
  | .ok setup =>
    match baselineOf tools.limits t request.arguments.reference setup.rootPath with
    | (t, .error stop) => .stopped t [] stop
    | (t, .ok baseline) =>
      match setup.engine.run setup.units baseline setup.aliases false with
      | .error e => .stopped t [] (scanStop e)
      | .ok r => conclude tools t request.arguments r setup.rootPath

/-- Runs a command on a file tree. Arguments that are no command end it at once. -/
def run (tools : Tools) (t : FileTree) (arguments : List String) : Outcome :=
  match ScanRequest.ofArguments? arguments with
  | none => ⟨t, [], [], .exit .failure⟩
  | some request => scan tools t request

/-- Runs commands one after another, each on the tree that the one before left. -/
def runAll (tools : Tools) (t : FileTree) : List (List String) → FileTree × List Outcome
  | [] => (t, [])
  | arguments :: rest =>
    let outcome := run tools t arguments
    let (t, outcomes) := runAll tools outcome.tree rest
    (t, outcome :: outcomes)

/-- Tools that do their work as the usual ones do, on a screen that takes every text. -/
def Tools.standard : Tools where
  frontEnd := SourceUnit.ofDocument
  ratio := Likeness.indelRatio
  ignoring := .gitignore
  markupFault? _ := none
  limits := ⟨980, 979, 970⟩

end TacticalDesign.Command
