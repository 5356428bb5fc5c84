import TacticalDesign.BaselineReader
import TacticalDesign.Config
import TacticalDesign.FileError
import TacticalDesign.Json.Parser
import TacticalDesign.Registry
import TacticalDesign.Text.Trim
/-!
# Documents

Configurations, rule overrides, declarations and baselines, read from the bytes of a file. Every way
to end a line reads as a line feed.
-/

namespace TacticalDesign

inductive DocumentError where
  | file (e : FileError)
  | syntaxProblem (text : String)
  | tooManyDigits (text : String)

namespace Document

def textOf (bytes : List UInt8) : Except FileError (List Char) :=
  match Text.Utf8.decode bytes with
  | .ok chars => .ok (Text.unifyLineEnds chars)
  | .error e => .error (.undecodable e)

def parse (bytes : List UInt8) : Except DocumentError Json :=
  match textOf bytes with
  | .error e => .error (.file e)
  | .ok text =>
    match Json.parse text with
    | .ok v => .ok v
    | .error (.tooManyDigits digits place) =>
      .error (.tooManyDigits (Json.ParseError.message text (.tooManyDigits digits place)))
    | .error e => .error (.syntaxProblem (e.message text))

def read (content : Except FileError (List UInt8)) : Except DocumentError Json :=
  match content with
  | .error e => .error (.file e)
  | .ok bytes => parse bytes

def depth (content : Except FileError (List UInt8)) : Nat :=
  match content.bind textOf with
  | .error _ => 0
  | .ok text => Json.depth text

end Document

/-! ## Configurations -/

inductive ConfigDocumentError where
  | document (e : DocumentError)
  | notAnObject
  | content (e : ConfigError)

def DocumentError.message (label : String) : DocumentError → String
  | file e => e.message
  | syntaxProblem text => label ++ text
  | tooManyDigits text => text

def ConfigDocumentError.message : ConfigDocumentError → String
  | document e => e.message "Configuration file is not valid JSON: "
  | notAnObject => "Configuration file must contain a JSON object"
  | content e => e.message

def ScanConfig.ofDocument (content : Except FileError (List UInt8)) :
    Except ConfigDocumentError ScanConfig :=
  match Document.read content with
  | .error e => .error (.document e)
  | .ok (.object members) =>
    match ScanConfig.ofOverrides members with
    | .ok c => .ok c
    | .error e => .error (.content e)
  | .ok _ => .error .notAnObject

/-! ## Rule overrides -/

inductive OverridesDocumentError where
  | document (e : DocumentError)
  | content (e : RuleError)

def OverridesDocumentError.message : OverridesDocumentError → String
  | document (.syntaxProblem text) => (RuleError.invalidDocument text).message
  | document e => e.message ""
  | content e => e.message

def RuleRegistry.withDocument (registry : RuleRegistry)
    (content : Except FileError (List UInt8)) : Except OverridesDocumentError RuleRegistry :=
  match Document.read content with
  | .error e => .error (.document e)
  | .ok document =>
    match Overrides.ofJson document with
    | .error e => .error (.content e)
    | .ok o =>
      match registry.withOverrides o with
      | .error e => .error (.content e)
      | .ok r => .ok r

/-! ## Declarations -/

inductive DeclarationDocumentError where
  | document (e : DocumentError)
  | noUnits
  | unitWithoutPath (index : Nat)

def DeclarationDocumentError.message : DeclarationDocumentError → String
  | document e => e.message "Declaration file is not valid JSON: "
  | noUnits => "Declaration file must contain an object with a 'units' list"
  | unitWithoutPath index =>
    "Unit #" ++ Number.natText index ++ " must be an object with a string 'path'"

namespace SourceUnit

def ofEntry (entry : Json) : Option SourceUnit :=
  match entry with
  | .object members =>
    match Json.lookup "path" members with
    | some (.string path) => some {
        path
        language := ((Json.lookup "language" members).map (·.asText)).getD "unknown"
        extraction := Extraction.ofDocument members }
    | _ => none
  | _ => none

def ofEntries (index : Nat) : List Json → Except DeclarationDocumentError (List SourceUnit)
  | [] => .ok []
  | entry :: rest =>
    match ofEntry entry with
    | none => .error (.unitWithoutPath index)
    | some u =>
      match ofEntries (index + 1) rest with
      | .error e => .error e
      | .ok units => .ok (u :: units)

def ofDocument (content : Except FileError (List UInt8)) :
    Except DeclarationDocumentError (List SourceUnit) :=
  match Document.read content with
  | .error e => .error (.document e)
  | .ok document =>
    match document.get? "units" with
    | some (.array entries) => ofEntries 0 entries
    | _ => .error .noUnits

end SourceUnit

/-! ## Baselines -/

inductive BaselineDocumentError where
  | document (e : DocumentError)
  | content (e : BaselineError)

def BaselineDocumentError.message : BaselineDocumentError → String
  | document e => e.message "Baseline file is not valid JSON: "
  | content e => e.message

def Baseline.ofDocument (content : Except FileError (List UInt8)) :
    Except BaselineDocumentError Baseline :=
  match Document.read content with
  | .error e => .error (.document e)
  | .ok document =>
    match Baseline.ofJson document with
    | .ok b => .ok b
    | .error e => .error (.content e)

end TacticalDesign
