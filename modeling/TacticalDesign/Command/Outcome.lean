import TacticalDesign.Build
import TacticalDesign.Command.Display
import TacticalDesign.FileTree
/-!
# Outcomes

What a run leaves behind: the files, what was shown, notes on the error stream, and how it ended.
-/

namespace TacticalDesign.Command

/-- A failure that no run reports in its own words. -/
inductive Abort where
  /-- A whole number beyond the largest float. -/
  | numberTooLarge
  /-- A scan would have to wait for longer than a clock can tell. -/
  | waitTooLong
  /-- Brackets, or directories, that are nested too deep. -/
  | nesting
  /-- A line of an ignore file fails in a way that no reader of patterns expects. -/
  | pattern (message : String)
  | storeUnopenable
  /-- A project with an empty path. -/
  | noSource
  /-- A path that no file can have. -/
  | unusablePath (e : FileError)
  /-- A change names a symbol that neither graph holds. -/
  | missingSymbol (id : String)
  /-- The values of a baseline are of sorts that cannot be compared. -/
  | comparison (message : String)
  /-- A text has markup that cannot be shown. -/
  | markup (message : String)
  /-- The end of the run is asked for outside of its scan. -/
  | interrupt
  deriving DecidableEq, Repr

def Abort.message : Abort → String
  | numberTooLarge => "int too large to convert to float"
  | waitTooLong => BuildError.waitTooLong.message
  | nesting => "maximum recursion depth exceeded"
  | pattern message => message
  | storeUnopenable => "unable to open database file"
  | noSource => "expected str, bytes or os.PathLike object, not NoneType"
  | unusablePath e => e.message
  | missingSymbol id => Text.quoted id
  | comparison message => message
  | markup message => message
  | interrupt => ""

/-- Why a run stops short: a failure with a text for the user, or an abort. -/
inductive Stop where
  | reported (message : String)
  | aborted (a : Abort)
  deriving DecidableEq, Repr

def Stop.under (words : String) : Stop → Stop
  | reported message => reported (words ++ message)
  | aborted a => aborted a

inductive ExitCode where
  | success
  | failure
  | interrupted
  deriving DecidableEq, Repr

def ExitCode.number : ExitCode → Nat
  | success => 0
  | failure => 2
  | interrupted => 130

inductive Ending where
  | exit (code : ExitCode)
  | abort (a : Abort)
  deriving DecidableEq, Repr

structure Outcome where
  tree : FileTree
  shown : List Display := []
  /-- The lines of the error stream. -/
  notes : List String := []
  ending : Ending

namespace Outcome

/-- The outcome of a run that stops short; a reported failure is the last note. -/
def stopped (tree : FileTree) (notes : List String) : Stop → Outcome
  | .reported message => ⟨tree, [], notes ++ [message], .exit .failure⟩
  | .aborted a => ⟨tree, [], notes, .abort a⟩

end Outcome

end TacticalDesign.Command
