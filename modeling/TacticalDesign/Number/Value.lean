import TacticalDesign.Number.Decimal
/-!
# Numbers

A number of a document is whole or a float, and the two stay apart: `2` and `2.0` are written
differently wherever they show.
-/

namespace TacticalDesign

inductive Number where
  | int (n : Int)
  | float (x : Float)

namespace Number

def text : Number → String
  | int n => intText n
  | float x => floatText x

/-- The nearest float; none when a whole number is beyond the largest one. -/
def toFloat? : Number → Option Float
  | int n =>
    let magnitude := Float.ofScientific n.natAbs false 0
    if magnitude.isInf then none else some (if n < 0 then -magnitude else magnitude)
  | float x => some x

def isFinite : Number → Bool
  | int _ => true
  | float x => x.isFinite

def toInt? : Number → Option Int
  | int n => some n
  | float x => (Parts.ofFloat x).toInt?

def isPositive : Number → Bool
  | int n => 0 < n
  | float x => 0 < x

def isNegative : Number → Bool
  | int n => n < 0
  | float x => x < 0

def exceedsOne : Number → Bool
  | int n => 1 < n
  | float x => 1 < x

def isZero : Number → Bool
  | int n => n = 0
  | float x => x == 0

/-- The exact value; none for floats that are no numbers. -/
def toRat? : Number → Option Rat
  | int n => some n
  | float x => (Parts.ofFloat x).toRat?

end Number

end TacticalDesign
