import TacticalDesign.Path
import TacticalDesign.Source.Declarations
import TacticalDesign.SourceUnit
/-!
# Modules

The path of a module gives the namespace of its declarations.
-/

namespace TacticalDesign.Source

inductive ModuleError where
  | unparseable (path : String)
  /-- The path has no last name. -/
  | namelessPath (path : Path)
  | text (e : TextError)
  deriving DecidableEq, Repr

namespace ModuleError

def message : ModuleError → String
  | unparseable path => "cannot parse " ++ path
  | namelessPath path => "PosixPath(" ++ Text.quoted path.text ++ ") has an empty name"
  | text e => e.message

def failure : ModuleError → Failure
  | unparseable path => .unparseable (unparseable path).message
  | e => .value e.message

end ModuleError

/-- The dotted name of a module: its path without the extension. What starts a package stands for
the package. -/
def moduleName (path : Path) : Except ModuleError String :=
  match path.name? with
  | none => .error (.namelessPath path)
  | some name =>
    let root := if path.root = "" then [] else [path.root]
    let last := if Path.stem name = "__init__" then [] else [Path.stem name]
    .ok (".".intercalate (root ++ path.names.dropLast ++ last))

def moduleDeclarations (path source : String) : Except ModuleError (List TypeDeclaration) :=
  match parseModule source with
  | none => .error (.unparseable path)
  | some body =>
    match moduleName (Path.ofText path) with
    | .error e => .error e
    | .ok nameSpace =>
      match declarationsIn nameSpace body with
      | .error e => .error (.text e)
      | .ok declarations => .ok declarations

def moduleExtraction (path source : String) : Extraction :=
  match moduleDeclarations path source with
  | .ok declarations => .declared declarations
  | .error e => .failed e.failure

end TacticalDesign.Source
