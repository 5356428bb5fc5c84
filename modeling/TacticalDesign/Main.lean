import TacticalDesign.Command.Run
import TacticalDesign.StoreDocument
/-!
# The program

Reads the files that the arguments name into a tree, runs the command, and writes back what the run
has written.
-/

namespace TacticalDesign.Program

open Command

def pathsOf (r : ScanRequest) : List String :=
  let a := r.arguments
  let source := match r.source with
    | .project path => path
    | .declarations path => path
  let reference := match a.reference with
    | some (.file path) => some path
    | some (.store path) => some path
    | none => none
  source :: [a.config, a.rules, reference, a.saveBaseline, a.store, a.output].filterMap given?

/-- What stands at an absolute path; what cannot be read counts as missing. -/
def entryAt (path : String) : IO (Option Entry) := do
  let base ← IO.currentDir
  if ← (base / path).isDir then return some .directory
  try
    let bytes := (← IO.FS.readBinFile path).toList
    match RunTables.ofBytes? bytes with
    | some tables => return some (.store (.tables tables))
    | none => return some (.file bytes)
  catch _ => return none

def load (t : FileTree) (place : List String) : IO FileTree := do
  match ← entryAt (FileTree.pathOf place).text with
  | some entry => return t.put place entry
  | none => return t

def loadAlong (t : FileTree) (path : Path) : IO (FileTree × List String) :=
  path.names.foldlM (fun (t, place) name => do
    let place := FileTree.goTo place name
    return (← load t place, place)) (t, t.start path)

/-- Loads what a scan may look at below a directory: ignore files anywhere, and modules outside of
the directories that are never entered. -/
partial def loadBelow (t : FileTree) (place : List String) (entered : Bool := true) :
    IO FileTree := do
  let base ← IO.currentDir
  let mut t := t
  for found in ← (base / (FileTree.pathOf place).text).readDir do
    let next := place ++ [found.fileName]
    if ← found.path.isDir then
      let entered := entered && !(found.fileName ∈ Project.skippedDirectories)
      t ← loadBelow (t.put next .directory) next entered
    else if found.fileName = Project.ignoreFileName ∨
        entered ∧ found.fileName.endsWith Project.moduleExtension then
      t ← load t next
  return t

def loadAll (t : FileTree) (r : ScanRequest) : IO FileTree := do
  let mut t := t
  for path in pathsOf r do
    t := (← loadAlong t (.ofText path)).1
  match r.source with
  | .project path =>
    let (loaded, place) ← loadAlong t (.ofText path)
    if path ≠ "" ∧ loaded.isDirectory place then loadBelow loaded place else return loaded
  | .declarations _ => return t

def save (t : FileTree) (path : String) : IO Unit := do
  let write (place : List String) (bytes : List UInt8) : IO Unit := do
    IO.FS.createDirAll (FileTree.pathOf place.dropLast).text
    IO.FS.writeBinFile (FileTree.pathOf place).text ⟨bytes.toArray⟩
  match t.lookup (.ofText path) with
  | .ok (some (place, .file bytes)) => write place bytes
  | .ok (some (place, .store (.tables tables))) => write place tables.toBytes
  | _ => return ()

def writtenPaths (r : ScanRequest) : List String :=
  let a := r.arguments
  let store := match a.reference with
    | some (.store path) => some path
    | _ => none
  [store, a.saveBaseline, a.store, a.output].filterMap given?

def finish (outcome : Outcome) : IO UInt32 := do
  for note in outcome.notes do IO.eprintln note
  for d in outcome.shown do
    for line in d.lines do IO.println line
  match outcome.ending with
  | .exit code => return code.number.toUInt32
  | .abort a =>
    IO.eprintln a.message
    return 1

def run (arguments : List String) : IO UInt32 := do
  let home := (Path.ofText (← IO.currentDir).toString).names
  match ScanRequest.ofArguments? arguments with
  | none => finish (Command.run .standard { home } arguments)
  | some request =>
    let t ← loadAll { home } request
    let outcome := Command.run .standard t arguments
    for path in writtenPaths request do save outcome.tree path
    finish outcome

end TacticalDesign.Program

def main (arguments : List String) : IO UInt32 := TacticalDesign.Program.run arguments
