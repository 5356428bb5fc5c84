import TacticalDesign.Ignore.Matcher
import TacticalDesign.Number.Decimal
import TacticalDesign.Text.CodeRange
import TacticalDesign.Text.Quoted
/-!
# Patterns as paths of globs

A line of an ignore file is a path of globs. It is anchored at the root when it has a slash before
its end; a single name matches at any depth. A slash at the end asks for a directory, and an
exclamation mark in front takes back what earlier patterns ignore. A glob describes one name of a
path: `*` stands for any characters but a slash, `?` for one of them, brackets for one character out
of a set, and a backslash takes the next character as it is.
-/

namespace TacticalDesign

/-! ## Globs -/

inductive IgnoreError where
  | invalid (line : String)
  /-- A range of characters runs backwards; `place` is where it starts in the expression that the
  pattern is matched with. -/
  | backwardRange (low high : Char) (place : Nat)
  deriving DecidableEq, Repr

namespace IgnoreError

def rangeEnd (c : Char) : String :=
  if c = Text.backslash then "\x5c\x5c" else String.singleton c

def message : IgnoreError → String
  | invalid line => "Invalid git pattern: " ++ Text.quoted line
  | backwardRange low high place =>
    "bad character range " ++ rangeEnd low ++ "-" ++ rangeEnd high ++ " at position " ++
      Number.natText place

def toPatternError : IgnoreError → PatternError
  | e@(invalid _) => .invalid e.message
  | e@(backwardRange _ _ _) => .unforeseen e.message

end IgnoreError

inductive ClassItem where
  | single (c : Char)
  | range (low high : Char)
  deriving DecidableEq, Repr

namespace ClassItem

def contains (d : Char) : ClassItem → Bool
  | single c => d = c
  | range low high => low ≤ d && d ≤ high

/-- How long an item is in the expression of its set. -/
def width : ClassItem → Nat
  | single c => (IgnoreError.rangeEnd c).length
  | range low high => (IgnoreError.rangeEnd low).length + 1 + (IgnoreError.rangeEnd high).length

/-- The items of a set. A hyphen between two characters makes a range. -/
def ofText (place : Nat) : List Char → Except IgnoreError (List ClassItem)
  | [] => .ok []
  | low :: '-' :: high :: rest =>
    if high < low then .error (.backwardRange low high place)
    else do
      let item := range low high
      return item :: (← ofText (place + item.width) rest)
  | c :: rest => do
    return single c :: (← ofText (place + (single c).width) rest)

end ClassItem

inductive GlobPiece where
  | char (c : Char)
  | anyChar
  | anyText
  | oneOf (isNegated : Bool) (items : List ClassItem)
  deriving DecidableEq, Repr

namespace GlobPiece

/-- Characters that stand for themselves only behind a backslash. -/
def isSpecial (c : Char) : Bool :=
  ("()[]?*+-|^$.&~# \t\n\r".toList ++ ['\x7b', '\x7d', '\x5c', '\x0b', '\x0c']).contains c

/-- How long a piece is in the expression that a pattern is matched with. -/
def width : GlobPiece → Nat
  | char c => if isSpecial c then 2 else 1
  | anyChar => 4
  | anyText => 5
  | oneOf isNegated items =>
    (if isNegated then 3 else 2) + items.foldl (fun n item => n + item.width) 0

def accepts (d : Char) : GlobPiece → Bool
  | char c => d = c
  | anyChar => d ≠ '/'
  | anyText => false
  | oneOf isNegated items => items.any (·.contains d) ≠ isNegated

end GlobPiece

namespace Glob

/-- The text of a set and what follows its closing bracket. The first character belongs to the set,
a closing bracket too. -/
def takeBody : List Char → Option (List Char × List Char)
  | [] => none
  | c :: rest =>
    match rest.dropWhile (· ≠ ']') with
    | _ :: after => some (c :: rest.takeWhile (· ≠ ']'), after)
    | [] => none

/-- Behind an opening bracket: whether the set is negated, its text, and what follows it. -/
def takeSet : List Char → Option (Bool × List Char × List Char)
  | '!' :: rest => (takeBody rest).map (true, ·)
  | '^' :: rest => (takeBody rest).map (true, ·)
  | cs => (takeBody cs).map (false, ·)

/-- The pieces of a name, or none where a backslash has nothing behind it. An opening bracket
without a closing one stands for itself. -/
def pieces (place : Nat) (fuel : Nat) (cs : List Char) :
    Except IgnoreError (Option (List GlobPiece)) :=
  match fuel, cs with
  | _, [] => .ok (some [])
  | 0, _ => .ok none
  | fuel + 1, c :: rest =>
    let put (piece : GlobPiece) (rest : List Char) : Except IgnoreError (Option (List GlobPiece)) :=
      (pieces (place + piece.width) fuel rest).map fun more => more.map (piece :: ·)
    if c = '\x5c' then
      match rest with
      | d :: rest => put (.char d) rest
      | [] => .ok none
    else if c = '*' then put .anyText rest
    else if c = '?' then put .anyChar rest
    else if c = '[' then
      match takeSet rest with
      | some (isNegated, body, after) => do
        let items ← ClassItem.ofText (place + if isNegated then 2 else 1) body
        put (.oneOf isNegated items) after
      | none => put (.char '[') rest
    else put (.char c) rest

/-- Reads the glob of one name; `place` is where it starts in the whole pattern's expression. -/
def ofText (place : Nat) (cs : List Char) : Except IgnoreError (Option (List GlobPiece)) :=
  pieces place (cs.length + 1) cs

end Glob

/-! ## Paths of globs -/

inductive Segment where
  /-- Any number of names, written as two stars. -/
  | anyDepth
  /-- One name, written as a star. -/
  | anyName
  | glob (pieces : List GlobPiece)
  deriving DecidableEq, Repr

inductive PatternShape where
  | everything
  /-- Everything inside of directories; it is marked when the pattern asks for directories. -/
  | nested (isMarked : Bool)
  | path (segments : List Segment) (isDirectory : Bool)
  deriving DecidableEq, Repr

structure PathPattern where
  /-- Whether the pattern ignores what it matches; otherwise it takes it back. -/
  ignores : Bool
  shape : PatternShape
  deriving DecidableEq, Repr

namespace PathPattern

def doubleStar : List Char := ['*', '*']

/-- Drops a double star behind another one. -/
def collapse : List (List Char) → List (List Char)
  | [] => []
  | name :: rest =>
    match collapse rest with
    | next :: more =>
      if name = doubleStar ∧ next = doubleStar then name :: more else name :: next :: more
    | [] => [name]

/-- The names of a pattern as they are matched from the root: a slash in front is dropped, a single
name gets a double star in front, and a slash at the end becomes a double star. -/
def normalNames (names : List (List Char)) : List (List Char) :=
  let anchored := match names with
    | [] :: rest => rest
    | [name] => if name = doubleStar then names else [doubleStar, name]
    | [name, []] => if name = doubleStar then names else [doubleStar, name, []]
    | _ => names
  let filled := match anchored.getLast? with
    | some [] => anchored.dropLast ++ [doubleStar]
    | _ => anchored
  collapse filled

def segmentWidth (isFirst needsSlash : Bool) : Segment → Nat
  | .anyDepth => if isFirst then 9 else 8
  | .anyName => (if isFirst then 1 else if needsSlash then 1 else 0) + 5
  | .glob pieces =>
    pieces.foldl (fun n piece => n + piece.width)
      (if isFirst then 1 else if needsSlash then 1 else 0)

def segments (place : Nat) (isFirst needsSlash : Bool) :
    List (List Char) → Except IgnoreError (Option (List Segment))
  | [] => .ok (some [])
  | name :: rest => do
    let lead := if isFirst || needsSlash then 1 else 0
    let segment ←
      if name = doubleStar then pure (some .anyDepth)
      else if name = ['*'] then pure (some .anyName)
      else (Glob.ofText (place + lead) name).map fun pieces => pieces.map Segment.glob
    match segment with
    | none => return none
    | some s =>
      let place := place + segmentWidth isFirst needsSlash s
      let more ← segments place false (s ≠ .anyDepth || !isFirst) rest
      return more.map (s :: ·)

def shapeOf (text : List Char) : Except IgnoreError (Option PatternShape) := do
  let names := Text.splitAtChar '/' text
  let isDirectory := names.getLast? = some []
  let names := normalNames names
  if names = [] then return none
  else if names = [doubleStar] then
    return some (if isDirectory then .nested true else .everything)
  else if names = [doubleStar, ['*']] then return some .everything
  else if names = [doubleStar, ['*'], doubleStar] then return some (.nested isDirectory)
  else
    let ss ← segments 0 true false names
    return ss.map (PatternShape.path · isDirectory)

/-- Reads a line. Blank lines, comments and a slash alone have no pattern. -/
def ofLine (line : String) : Except IgnoreError (Option PathPattern) := do
  let text := IgnoreLine.trimmed line.toList
  if text = [] ∨ text.head? = some '#' then return none
  let (ignores, text) := match text with
    | '!' :: rest => (false, rest)
    | _ => (true, text)
  if text = ['/'] then return none
  match ← shapeOf text with
  | none => throw (.invalid line)
  | some shape => return some ⟨ignores, shape⟩

end PathPattern

end TacticalDesign
