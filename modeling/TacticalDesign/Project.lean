import TacticalDesign.Document
import TacticalDesign.FileTree
import TacticalDesign.Ignore.Matcher
import TacticalDesign.Source.Module
/-!
# Projects

The modules of a project are its files with the right extension, except those that ignore files
exclude. Ignore files count for all that lies below them; deeper ones come later and so decide. A
line of an ignore file in a directory is written so that it means the same when it is read at the
root: a pattern with a slash is anchored at the directory, a single name matches anywhere below it.
-/

namespace TacticalDesign

/-! ## Ignore files below the root -/

/-- The pattern that a line means inside of a directory, without its exclamation mark. -/
def anchorBelow (directory pattern : String) : String :=
  let chars := pattern.toList
  let body := (chars.reverse.dropWhile (· = '/')).reverse
  if body.contains '/' then
    "/" ++ directory ++ "/" ++ String.ofList (chars.dropWhile (· = '/'))
  else "/" ++ directory ++ "/**/" ++ pattern

/-- Whether a line means the same in every directory: it is empty, a comment, or starts with a mark
behind a backslash. -/
def isScopeFree (line : String) : Bool :=
  let chars := line.toList
  chars.isEmpty || (Text.trimStart chars).head? = some '#' ||
    Text.startsWith chars ['\x5c', '!'] || Text.startsWith chars ['\x5c', '#']

/-- The line of an ignore file in a directory as a line of one at the root. -/
def rootRelativePattern (line directory : String) : String :=
  if directory.isEmpty || isScopeFree line then line
  else
    match line.toList with
    | '!' :: rest => "!" ++ anchorBelow directory (String.ofList rest)
    | _ => anchorBelow directory line

inductive ProjectError where
  | file (e : FileError)
  | pattern (e : PatternError)
  deriving DecidableEq, Repr

namespace ProjectError

def message : ProjectError → String
  | file e => e.message
  | pattern e => e.message

end ProjectError

namespace Project

def ignoreFileName : String := ".gitignore"

def moduleExtension : String := ".py"

def language : String := "python"

def skippedDirectories : List String := [".git", "__pycache__", ".venv", ".tox"]

def pathText (names : List String) : String := "/".intercalate names

/-! ## Ignore files -/

def ignoreFiles (entries : List (List String × Entry)) : List (List String) :=
  ((entries.map (·.1)).flatMap ignoreFilesOn).eraseDups.mergeSort textsLe
where
  /-- A directory of that name stands where an ignore file would. -/
  ignoreFilesOn (names : List String) : List (List String) :=
    ((List.range names.length).map fun n => names.take (n + 1)).filter
      fun names => names.getLast? = some ignoreFileName

def rootLines (directory : List String) (text : List Char) : List String :=
  (Text.splitLines (String.ofList text)).map fun line =>
    rootRelativePattern line (pathText directory)

/-- The lines of all ignore files of a project, those of deeper files later. -/
def ignoreLines (t : FileTree) (root : Path) : List (List String) → Except FileError (List String)
  | [] => .ok []
  | names :: rest => do
    let bytes ← t.read (root.append ⟨"", names⟩)
    let text ← Document.textOf bytes
    return rootLines names.dropLast text ++ (← ignoreLines t root rest)

/-! ## What is kept -/

section Kept

variable (m : IgnoreMatcher) (patterns : List IgnorePattern)

/-- Whether patterns exclude a path; a directory may be named with a slash at its end. -/
def excludes (isDirectory : Bool) (path : String) : Bool :=
  let chars := path.toList
  !chars.isEmpty &&
    (m.ignoresPath patterns chars || (isDirectory && m.ignoresPath patterns (chars ++ ['/'])))

def keepsDirectory (names : List String) : Bool :=
  !(names.getLast?.any (· ∈ skippedDirectories)) && !excludes m patterns true (pathText names)

def keepsModule (names : List String) : Bool :=
  Text.endsWith (pathText names).toList moduleExtension.toList &&
    !excludes m patterns false (pathText names)

/-- Whether every directory that leads to a file is entered and the file is a module. -/
def reaches (names : List String) : Bool :=
  ((List.range (names.length - 1)).all fun n => keepsDirectory m patterns (names.take (n + 1))) &&
    keepsModule m patterns names

end Kept

/-! ## Modules -/

def extraction (path : String) (content : Except FileError (List UInt8)) : Extraction :=
  match content.bind Document.textOf with
  | .ok text => Source.moduleExtraction path (String.ofList text)
  | .error e => .failed (.unparseable ("cannot read " ++ path ++ ": " ++ e.message))

def unitOf (t : FileTree) (root : Path) (names : List String) : SourceUnit where
  path := pathText names
  language := language
  extraction := extraction (pathText names) (t.read (root.append ⟨"", names⟩))

/-- The modules of the project in a directory, ordered by path. -/
def discover (m : IgnoreMatcher) (t : FileTree) (root : Path) :
    Except ProjectError (List SourceUnit) := do
  let entries := match t.locate root with
    | .ok place => t.below place
    | .error _ => []
  let lines ← match ignoreLines t root (ignoreFiles entries) with
    | .ok lines => pure lines
    | .error e => throw (.file e)
  let patterns ← match m.patternsOf lines with
    | .ok patterns => pure patterns
    | .error e => throw (.pattern e)
  let files := entries.filter fun (_, entry) => !(entry matches .directory)
  let modules := (files.map (·.1)).filter (reaches m patterns)
  return (modules.mergeSort fun a b => textLe (pathText a) (pathText b)).map (unitOf t root)

end Project

end TacticalDesign
