import TacticalDesign.Text.Trim
/-!
# Ignore patterns

What is taken of the library of ignore patterns: the pattern of a line, and whether patterns ignore
a path. A pattern matches a path itself or a directory above it.
-/

namespace TacticalDesign

inductive PatternError where
  | invalid (message : String)
  /-- A failure that is none of those a reader of patterns expects. -/
  | unforeseen (message : String)
  deriving DecidableEq, Repr

namespace PatternError

def message : PatternError → String
  | invalid message => message
  | unforeseen message => message

end PatternError

/-- What a pattern matches: the path itself, or a directory in front of a slash. -/
inductive MatchMark where
  | itself
  | directory
  deriving DecidableEq, Repr

def MatchMark.weight : MatchMark → Nat
  | directory => 1
  | itself => 2

structure IgnorePattern where
  /-- Whether the pattern ignores what it matches; otherwise it takes it back. -/
  ignores : Bool
  match? : List Char → Option MatchMark

/-- A library of ignore patterns. A directory is looked up with a slash at its end. -/
structure IgnoreMatcher where
  /-- The pattern of a line; blank lines and comments have none. -/
  ofLine : String → Except PatternError (Option IgnorePattern)
  ignoresPath : List IgnorePattern → List Char → Bool

namespace IgnoreMatcher

def patternsOf (m : IgnoreMatcher) (lines : List String) :
    Except PatternError (List IgnorePattern) := do
  return (← lines.mapM m.ofLine).filterMap id

end IgnoreMatcher

namespace IgnoreLine

/-- The text of a line: blanks at the end are dropped unless the last one stands behind a
backslash. -/
def trimmed (line : List Char) : List Char :=
  if Text.endsWith line ['\x5c', ' '] then line else Text.trimEnd line

end IgnoreLine

end TacticalDesign
