import TacticalDesign.Text.Quoted
/-!
# Failures of foreign code

A failure that a predicate or a unit's handle reports: the name of its kind, a text, and what its
kind inherits from. A unit that fails with a recoverable kind is reported by the text alone.
-/

namespace TacticalDesign

structure Failure where
  kind : String
  text : String
  /-- Whether the kind belongs to a family of failures to read or parse a unit. -/
  recoverable : Bool
  /-- Whether the text is a key that is missing. -/
  ofKey : Bool
  deriving DecidableEq, Repr

namespace Failure

def missingKey (key : String) : Failure := ⟨"KeyError", key, false, true⟩

/-- A failure of a kind in no family that is handled in its own way. -/
def other (kind text : String) : Failure := ⟨kind, text, false, false⟩

def unparseable (text : String) : Failure := ⟨"UnparseableUnitError", text, true, false⟩

def value (text : String) : Failure := ⟨"ValueError", text, true, false⟩

/-- The text that a report shows: a missing key is quoted. -/
def shown (f : Failure) : String := if f.ofKey then Text.quoted f.text else f.text

/-- The reason recorded for a unit that failed. -/
def reason (f : Failure) : String :=
  if f.recoverable then f.shown else f.kind ++ ": " ++ f.shown

end Failure

end TacticalDesign
