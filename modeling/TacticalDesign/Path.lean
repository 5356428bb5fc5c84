import TacticalDesign.Text.CodeRange
/-!
# Paths

A path is a root and the names below it. Empty names and single points between slashes are
dropped. Two slashes in front are a root of their own.
-/

namespace TacticalDesign

structure Path where
  /-- No slash for a relative path, else one or two. -/
  root : String
  names : List String
  deriving DecidableEq, Repr

namespace Path

def rootOf : List Char → String
  | '/' :: '/' :: '/' :: _ => "/"
  | '/' :: '/' :: _ => "//"
  | '/' :: _ => "/"
  | _ => ""

def ofText (text : String) : Path where
  root := rootOf text.toList
  names := ((Text.splitAtChar '/' text.toList).map String.ofList).filter
    fun name => name ≠ "" ∧ name ≠ "."

def isAbsolute (p : Path) : Bool := p.root ≠ ""

/-- The written path; a relative one without names is a point. -/
def text (p : Path) : String :=
  if p.root = "" ∧ p.names = [] then "." else p.root ++ "/".intercalate p.names

def name? (p : Path) : Option String := p.names.getLast?

/-- The path that a second one names when it is read from the first. -/
def append (p q : Path) : Path := if q.isAbsolute then q else ⟨p.root, p.names ++ q.names⟩

def parent (p : Path) : Path := ⟨p.root, p.names.dropLast⟩

/-- A name without its last extension. A point at either end starts none. -/
def stem (name : String) : String :=
  let chars := name.toList
  let extension := (chars.reverse.takeWhile (· ≠ '.')).length
  let before := chars.length - extension - 1
  if extension < chars.length ∧ 0 < extension ∧ 0 < before then
    String.ofList (chars.take before)
  else name

end Path

end TacticalDesign
