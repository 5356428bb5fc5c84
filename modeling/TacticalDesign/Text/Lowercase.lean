import TacticalDesign.Text.CharClass
import TacticalDesign.Text.LowercaseTable
/-!
# Lowercase

The full lowercase mapping of a text: code point by code point, with the two cases that depend on
more than the code point. A capital I with a dot becomes two characters, and a capital sigma takes
its final form at the end of a word.
-/

namespace TacticalDesign.Text

/-- Code points `first`, `first + step`, … up to `last`, each mapped to itself plus the distance
from `first` to `image`. -/
structure LowerRun where
  first : Nat
  last : Nat
  step : Nat
  image : Nat

namespace LowerRun

def ofEntry (entry : List Char) : LowerRun :=
  match cutAtChar '>' entry with
  | (members, image) =>
    let image := hexValue (image.getD [])
    match cutAtChar '-' members, cutAtChar ':' members with
    | (a, some b), _ => ⟨hexValue a, hexValue b, 1, image⟩
    | _, (a, some b) => ⟨hexValue a, hexValue b, 2, image⟩
    | (a, none), (_, none) => ⟨hexValue a, hexValue a, 1, image⟩

def image? (r : LowerRun) (n : Nat) : Option Nat :=
  if r.first ≤ n ∧ n ≤ r.last ∧ (n - r.first) % r.step = 0 then some (r.image + (n - r.first))
  else none

end LowerRun

private def lowerRuns : List LowerRun := (tableEntries LowercaseTable.runs).map LowerRun.ofEntry
private def casedRanges : Array CodeRange := rangesOfTable LowercaseTable.cased
private def caseIgnorableRanges : Array CodeRange := rangesOfTable LowercaseTable.caseIgnorable

/-- The lowercase form of one character where it does not depend on its neighbours. -/
def lowerChar (c : Char) : Char :=
  if c.toNat < 128 then (if isAsciiUpper c then Char.ofNat (c.toNat + 32) else c)
  else match lowerRuns.findSome? (·.image? c.toNat) with
    | some n => Char.ofNat n
    | none => c

private def capitalSigma : Char := '\u03a3'
private def capitalDottedI : Char := '\u0130'

/-- Whether the nearest character that is not passed over has a case. -/
def nextIsCased : List Char → Bool
  | [] => false
  | c :: rest =>
    if inRanges caseIgnorableRanges c.toNat then nextIsCased rest
    else inRanges casedRanges c.toNat

/-- Lowercase of a text whose part before it, in reverse, is `before`. -/
def lowerAfter (before : List Char) : List Char → List Char
  | [] => []
  | c :: rest =>
    let image :=
      if c = capitalDottedI then ['i', '\u0307']
      else if c = capitalSigma then
        if nextIsCased before && !nextIsCased rest then ['\u03c2'] else ['\u03c3']
      else [lowerChar c]
    image ++ lowerAfter (c :: before) rest

def lower (s : String) : String := String.ofList (lowerAfter [] s.toList)

end TacticalDesign.Text
