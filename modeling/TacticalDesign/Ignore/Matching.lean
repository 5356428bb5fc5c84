import TacticalDesign.Ignore.Pattern
/-!
# What ignore patterns match

A pattern matches a path itself or a directory above it. A match of the path itself weighs more than
one of a directory above it, and of matches that weigh the same the later pattern decides.
-/

namespace TacticalDesign

inductive MatchStep where
  /-- Any number of whole names at the front, each with its slash. -/
  | leadingNames
  /-- A slash and at least one character, or nothing. -/
  | innerNames
  | slash
  | wholeName
  | piece (p : GlobPiece)
  /-- The end of the path or of a directory's name. -/
  | nameEnd
  /-- The slash behind a directory; it is marked when the pattern asks for directories. -/
  | directoryEnd (isMarked : Bool)
  deriving DecidableEq, Repr

namespace MatchStep

/-- What is left of `cs` when between `low` and `high` characters are taken, most of them first. -/
def remainders (low high : Nat) (cs : List Char) : List (List Char) :=
  (List.range (high + 1 - low)).map fun k => cs.drop (high - k)

/-- What is left behind a slash that has something in front of it, the last slash first. -/
def behindSlashes (cs : List Char) : List (List Char) :=
  let line := cs.takeWhile (· ≠ '\n')
  ((List.range line.length).reverse.filter fun i => 0 < i ∧ cs[i]? = some '/').map fun i =>
    cs.drop (i + 1)

/-- A line feed may stand at the very end. -/
def atEnd (cs : List Char) : Bool := cs.isEmpty || cs = ['\n']

/-- Matches a path from its front. Where several ways lead to a match, the one that takes most
characters first counts. -/
def run : List MatchStep → List Char → Option MatchMark
  | [], _ => none
  | .leadingNames :: rest, cs => (behindSlashes cs ++ [cs]).findSome? (run rest)
  | .innerNames :: rest, cs =>
    let more := match cs with
      | '/' :: below => remainders 1 (below.takeWhile (· ≠ '\n')).length below
      | _ => []
    (more ++ [cs]).findSome? (run rest)
  | .slash :: rest, cs =>
    match cs with
    | '/' :: below => run rest below
    | _ => none
  | .wholeName :: rest, cs =>
    (remainders 1 (cs.takeWhile (· ≠ '/')).length cs).findSome? (run rest)
  | .piece .anyText :: rest, cs =>
    (remainders 0 (cs.takeWhile (· ≠ '/')).length cs).findSome? (run rest)
  | .piece p :: rest, cs =>
    match cs with
    | c :: below => if p.accepts c then run rest below else none
    | [] => none
  | .nameEnd :: _, cs =>
    if cs.head? = some '/' then some .directory else if atEnd cs then some .itself else none
  | .directoryEnd isMarked :: _, cs =>
    if cs.head? = some '/' then some (if isMarked then .directory else .itself) else none

def ofSegments (isDirectory needsSlash : Bool) : List Segment → List MatchStep
  | [] => [.nameEnd]
  | [.anyDepth] => [.directoryEnd isDirectory]
  | .anyDepth :: rest => .innerNames :: ofSegments isDirectory true rest
  | .anyName :: rest =>
    (if needsSlash then [.slash] else []) ++ .wholeName :: ofSegments isDirectory true rest
  | .glob pieces :: rest =>
    (if needsSlash then [.slash] else []) ++ pieces.map .piece ++ ofSegments isDirectory true rest

def ofPath (isDirectory : Bool) : List Segment → List MatchStep
  | .anyDepth :: rest => .leadingNames :: ofSegments isDirectory false rest
  | segments => ofSegments isDirectory false segments

end MatchStep

def PatternShape.match? (path : List Char) : PatternShape → Option MatchMark
  | .everything => if path.any (· ≠ '\n') then some .itself else none
  | .nested isMarked =>
    if path.contains '/' then some (if isMarked then .directory else .itself) else none
  | .path segments isDirectory => MatchStep.run (MatchStep.ofPath isDirectory segments) path

def PathPattern.toIgnorePattern (p : PathPattern) : IgnorePattern := ⟨p.ignores, p.shape.match?⟩

/-- What the patterns so far say about a path, and how much that weighs. -/
structure IgnoreDecision where
  ignored : Bool := false
  weight : Nat := 0
  deriving DecidableEq, Repr

namespace IgnoreDecision

def add (path : List Char) (d : IgnoreDecision) (p : IgnorePattern) : IgnoreDecision :=
  match p.match? path with
  | none => d
  | some mark =>
    if d.weight ≤ mark.weight then ⟨p.ignores, mark.weight⟩ else d

end IgnoreDecision

def IgnoreMatcher.gitignore : IgnoreMatcher where
  ofLine line :=
    match PathPattern.ofLine line with
    | .ok pattern => .ok (pattern.map PathPattern.toIgnorePattern)
    | .error e => .error e.toPatternError
  ignoresPath patterns path := (patterns.foldl (IgnoreDecision.add path) {}).ignored

end TacticalDesign
