import TacticalDesign.FileError
import TacticalDesign.Path
import TacticalDesign.RunStore
/-!
# File trees

Directories, files and run stores below one root. Relative paths start in the home directory. Every
directory above an entry exists, and so does the home directory.
-/

namespace TacticalDesign

inductive Entry where
  | directory
  | file (bytes : List UInt8)
  | store (content : StoreFile)

structure FileTree where
  /-- The names that lead from the root to the home directory. -/
  home : List String := []
  /-- Entries by the names that lead to them, each once. -/
  entries : List (List String × Entry) := []

namespace FileTree

def isDirectory (t : FileTree) (place : List String) : Bool :=
  place.isPrefixOf t.home || t.entries.any fun (other, entry) =>
    if other = place then entry matches .directory
    else place.isPrefixOf other

def entry? (t : FileTree) (place : List String) : Option Entry :=
  if t.isDirectory place then some .directory else (t.entries.find? (·.1 = place)).map (·.2)

def put (t : FileTree) (place : List String) (entry : Entry) : FileTree :=
  { t with entries := t.entries.filter (·.1 ≠ place) ++ [(place, entry)] }

/-! ## Places -/

inductive LostWay where
  | missing
  | notADirectory
  | nameTooLong
  | nullInPath
  deriving DecidableEq, Repr

def LostWay.toFileError (path : String) : LostWay → FileError
  | missing => .notFound path
  | notADirectory => .notADirectory path
  | nameTooLong => .nameTooLong path
  | nullInPath => .nullInPath

def byteLength (s : String) : Nat := (Text.Utf8.encode s.toList).length

def nameLimit : Nat := 255

def pathLimit : Nat := 4095

/-- The place that a name leads to; two points lead back. -/
def goTo (place : List String) (name : String) : List String :=
  if name = ".." then place.dropLast else place ++ [name]

def step (t : FileTree) (place : List String) (name : String) : Except LostWay (List String) :=
  if t.isDirectory place then
    if name = ".." then .ok place.dropLast
    else if nameLimit < byteLength name then .error .nameTooLong
    else .ok (place ++ [name])
  else if (t.entry? place).isSome then .error .notADirectory
  else .error .missing

/-- Follows names from a directory. Only the last one may name nothing or a file. -/
def follow (t : FileTree) (place : List String) (names : List String) :
    Except LostWay (List String) :=
  names.foldlM t.step place

def unusable? (p : Path) : Option LostWay :=
  if p.text.toList.contains '\x00' then some .nullInPath
  else if pathLimit < byteLength p.text then some .nameTooLong
  else none

/-- The directory in which a path starts. -/
def start (t : FileTree) (p : Path) : List String := if p.isAbsolute then [] else t.home

def locate (t : FileTree) (p : Path) : Except FileError (List String) :=
  match unusable? p with
  | some e => .error (e.toFileError p.text)
  | none =>
    match t.follow (t.start p) p.names with
    | .ok place => .ok place
    | .error e => .error (e.toFileError p.text)

def lookup (t : FileTree) (p : Path) : Except FileError (Option (List String × Entry)) :=
  match t.locate p with
  | .ok place => .ok ((t.entry? place).map fun entry => (place, entry))
  | .error (.nameTooLong path) => .error (.nameTooLong path)
  | .error _ => .ok none

def pathOf (place : List String) : Path := ⟨"/", place⟩

/-- The files and stores below a place, by the names that lead to them from there. -/
def below (t : FileTree) (place : List String) : List (List String × Entry) :=
  t.entries.filterMap fun (names, entry) =>
    if place.isPrefixOf names ∧ place.length < names.length then
      some (names.drop place.length, entry)
    else none

def depthBelow (t : FileTree) (place : List String) : Nat :=
  ((t.below place).map fun (names, entry) =>
    match entry with
    | .directory => names.length
    | _ => names.length - 1).foldl max 0

/-! ## Files -/

/-- The first byte in the file of a store that belongs to no text. -/
def storeDecodeError : Text.Utf8.DecodeError := ⟨.invalidStart, 109, 1, 0x97⟩

def read (t : FileTree) (p : Path) : Except FileError (List UInt8) :=
  match t.locate p with
  | .error e => .error e
  | .ok place =>
    match t.entry? place with
    | none => .error (.notFound p.text)
    | some .directory => .error (.isADirectory p.text)
    | some (.file bytes) => .ok bytes
    | some (.store _) => .error (.undecodable storeDecodeError)

/-- Creates the directories that names lead through from a place. -/
def makeDirectories (t : FileTree) (path : String) (place : List String) :
    List String → Except FileError FileTree
  | [] => .ok t
  | name :: rest =>
    match t.step place name with
    | .error e => .error (e.toFileError path)
    | .ok next =>
      match t.entry? next with
      | none => (t.put next .directory).makeDirectories path next rest
      | some .directory => t.makeDirectories path next rest
      | some _ => .error (if rest = [] then .alreadyThere path else .notADirectory path)

def makeDirectory (t : FileTree) (p : Path) : Except FileError FileTree :=
  match unusable? p with
  | some e => .error (e.toFileError p.text)
  | none => t.makeDirectories p.text (t.start p) p.names

def write (t : FileTree) (p : Path) (bytes : List UInt8) : Except FileError FileTree :=
  match t.locate p with
  | .error e => .error e
  | .ok place =>
    if t.isDirectory place then .error (.isADirectory p.text)
    else .ok (t.put place (.file bytes))

/-- Writes a file and creates the directories that lead to it. -/
def writeFile (t : FileTree) (p : Path) (bytes : List UInt8) : Except FileError FileTree := do
  (← t.makeDirectory p.parent).write p bytes

/-! ## Stores -/

/-- The path of a store that is forgotten as soon as it is closed. -/
def transientStore : String := ":memory:"

/-- The place of the store that a path leads to. A transient store has none. -/
structure OpenStore where
  place : Option (List String)
  content : StoreFile

/-- The run store that a path leads to. An empty file and a place without a file are empty stores;
any other file is no store. A directory cannot be opened. -/
def openStore (t : FileTree) (p : Path) : Except FileError (Option OpenStore) :=
  if p.text = transientStore then .ok (some ⟨none, .empty⟩)
  else
    match t.locate p with
    | .error .nullInPath => .error .nullInPath
    | .error _ => .ok none
    | .ok place =>
      match t.entry? place with
      | some .directory => .ok none
      | some (.store content) => .ok (some ⟨some place, content⟩)
      | some (.file []) => .ok (some ⟨some place, .empty⟩)
      | some (.file _) => .ok (some ⟨some place, .foreign⟩)
      | none => .ok (some ⟨some place, .empty⟩)

/-- Keeps what a store has become; a file that is no store stays as it is. -/
def keepStore (t : FileTree) (place : Option (List String)) : StoreFile → FileTree
  | .foreign => t
  | .tables tables => place.elim t fun place => t.put place (.store (.tables tables))

end FileTree

end TacticalDesign
