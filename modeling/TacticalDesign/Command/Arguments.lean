import TacticalDesign.Number.Reading
import TacticalDesign.Text.CodeRange
import TacticalDesign.Text.Trim
/-!
# Arguments

The arguments of a command: the word `scan`, then options, each with one value. A value stands
behind an equals sign or is the next argument. An option may be shortened as long as only one
option begins that way. Anything else is no command.
-/

namespace TacticalDesign.Command

inductive ScanOption where
  | path
  | declarations
  | format
  | output
  | config
  | rules
  | workers
  | unitTimeout
  | baseline
  | baselineStore
  | saveBaseline
  | store
  | renamed
  deriving DecidableEq, Repr

namespace ScanOption

/-- Options by name. A request for help names no option. -/
def names : List (String × Option ScanOption) :=
  [("--help", none), ("--path", some path), ("--declarations", some declarations),
    ("--format", some format), ("--output", some output), ("--config", some config),
    ("--rules", some rules), ("--workers", some workers), ("--unit-timeout", some unitTimeout),
    ("--baseline", some baseline), ("--baseline-db", some baselineStore),
    ("--save-baseline", some saveBaseline), ("--db", some store), ("--alias", some renamed)]

end ScanOption

inductive Argument where
  | option (o : ScanOption) (attached : Option String)
  | value (text : String)
  deriving DecidableEq, Repr

namespace Argument

/-- Whether a text is a negative number; a line feed at its end does not count. -/
def isNegativeNumber (text : List Char) : Bool :=
  let body := if text.getLast? = some '\n' then text.dropLast else text
  match body with
  | '-' :: rest =>
    let fraction := (rest.dropWhile Text.isDecimal)
    match fraction with
    | [] => !rest.isEmpty
    | '.' :: digits => !digits.isEmpty && digits.all Text.isDecimal
    | _ => false
  | _ => false

/-- The options that a name may mean: the one with just this name, else all that begin with it. -/
def candidates (name : String) : List (Option ScanOption) :=
  match ScanOption.names.lookup name with
  | some o => [o]
  | none => (ScanOption.names.filter fun (full, _) =>
      Text.startsWith full.toList name.toList).map (·.2)

/-- Reads one argument. What begins with a hyphen is an option, unless it is a lone hyphen, a
negative number, or no option's name and has a blank in it. -/
def ofText (text : String) : Option Argument :=
  match text.toList with
  | '-' :: second :: _ =>
    if second = 'h' then none
    else
      let (name, attached) := Text.cutAtChar '=' text.toList
      let named := if second = '-' then candidates (String.ofList name) else []
      match named with
      | [some o] => some (.option o (attached.map String.ofList))
      | [] =>
        if isNegativeNumber text.toList || text.toList.contains ' ' then some (.value text)
        else none
      | _ => none
  | _ => some (.value text)

end Argument

def settingsOf : List Argument → Option (List (ScanOption × String))
  | [] => some []
  | .option o (some text) :: rest => (settingsOf rest).map ((o, text) :: ·)
  | .option o none :: .value text :: rest => (settingsOf rest).map ((o, text) :: ·)
  | _ => none

inductive Source where
  | project (path : String)
  | declarations (path : String)
  deriving DecidableEq, Repr

inductive Reference where
  | file (path : String)
  | store (path : String)
  deriving DecidableEq, Repr

inductive Format where
  | table
  | json
  deriving DecidableEq, Repr

def Format.ofWord? (w : String) : Option Format :=
  if w = "table" then some .table else if w = "json" then some .json else none

structure ScanArguments where
  source : Option Source := none
  format : Format := .table
  output : Option String := none
  config : Option String := none
  rules : Option String := none
  workers : Option Int := none
  unitTimeout : Option Float := none
  reference : Option Reference := none
  saveBaseline : Option String := none
  store : Option String := none
  aliases : List String := []

namespace ScanArguments

/-- Takes one option; a later value replaces an earlier one. A project and declarations exclude each
other, and so do a baseline file and a baseline store. -/
def add (a : ScanArguments) : ScanOption × String → Option ScanArguments
  | (.path, v) =>
    match a.source with
    | some (.declarations _) => none
    | _ => some { a with source := some (.project v) }
  | (.declarations, v) =>
    match a.source with
    | some (.project _) => none
    | _ => some { a with source := some (.declarations v) }
  | (.format, v) => (Format.ofWord? v).map fun format => { a with format }
  | (.output, v) => some { a with output := some v }
  | (.config, v) => some { a with config := some v }
  | (.rules, v) => some { a with rules := some v }
  | (.workers, v) => (Number.intOfText? v).map fun n => { a with workers := some n }
  | (.unitTimeout, v) => (Number.floatOfText? v).map fun x => { a with unitTimeout := some x }
  | (.baseline, v) =>
    match a.reference with
    | some (.store _) => none
    | _ => some { a with reference := some (.file v) }
  | (.baselineStore, v) =>
    match a.reference with
    | some (.file _) => none
    | _ => some { a with reference := some (.store v) }
  | (.saveBaseline, v) => some { a with saveBaseline := some v }
  | (.store, v) => some { a with store := some v }
  | (.renamed, v) => some { a with aliases := a.aliases ++ [v] }

end ScanArguments

structure ScanRequest where
  source : Source
  arguments : ScanArguments

def ScanRequest.ofArguments? : List String → Option ScanRequest
  | "scan" :: rest => do
    let arguments ← rest.mapM Argument.ofText
    let settings ← settingsOf arguments
    let a ← settings.foldlM ScanArguments.add {}
    let source ← a.source
    return ⟨source, a⟩
  | _ => none

end TacticalDesign.Command
