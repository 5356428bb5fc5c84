import TacticalDesign.Number.Value
/-!
# Comparing and adding numbers

Whole numbers and floats compare by their exact values. Sums and quotients of whole numbers stay
exact as long as they can; as soon as a float takes part the result is a float.
-/

namespace TacticalDesign.Number

/-- Whether `a ≤ b`; nothing compares with a float that is no number. -/
def le (a b : Number) : Bool :=
  match a, b with
  | int m, int n => m ≤ n
  | float x, float y => x ≤ y
  | a, b =>
    match a.toRat?, b.toRat? with
    | some p, some q => p ≤ q
    | none, _ => a.isNegative
    | _, none => b.isPositive

def lt (a b : Number) : Bool :=
  match a, b with
  | int m, int n => m < n
  | float x, float y => x < y
  | a, b =>
    match a.toRat?, b.toRat? with
    | some p, some q => p < q
    | none, _ => a.isNegative
    | _, none => b.isPositive

def same (a b : Number) : Bool :=
  match a, b with
  | int m, int n => m = n
  | float x, float y => x == y
  | a, b =>
    match a.toRat?, b.toRat? with
    | some p, some q => p = q
    | _, _ => false

/-- The value as a float; a whole number beyond the largest float becomes an infinity. -/
def toFloat (a : Number) : Float :=
  match a.toFloat? with
  | some x => x
  | none => if a.isNegative then -1 / 0 else 1 / 0

def add (a b : Number) : Number :=
  match a, b with
  | int m, int n => int (m + n)
  | a, b => float (a.toFloat + b.toFloat)

def sub (a b : Number) : Number :=
  match a, b with
  | int m, int n => int (m - n)
  | a, b => float (a.toFloat - b.toFloat)

def mul (a b : Number) : Number :=
  match a, b with
  | int m, int n => int (m * n)
  | a, b => float (a.toFloat * b.toFloat)

def div (a b : Number) : Number := float (a.toFloat / b.toFloat)

def round (places : Nat) (a : Number) : Number :=
  match a with
  | int n => int n
  | float x => float (roundPlaces places x)

def fixed (places : Nat) (a : Number) : String := fixedText places a.toFloat

end TacticalDesign.Number
