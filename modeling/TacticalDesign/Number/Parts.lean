/-!
# The parts of a float

A float is not a number, an infinity, or a sign with `mantissa * 2 ^ exponent`. Everything the
library says about a float's exact value starts from these parts.
-/

namespace TacticalDesign.Number

def twoTo (n : Nat) : Nat := Nat.pow 2 n

def tenTo (n : Nat) : Nat := Nat.pow 10 n

inductive Parts where
  | nan
  | infinite (negative : Bool)
  | finite (negative : Bool) (mantissa : Nat) (exponent : Int)
  deriving DecidableEq, Repr

namespace Parts

/-- The weight of the lowest exponent bit, and the least mantissa of a normal float. -/
def leadingUnit : Nat := 0x10000000000000

def ofBits (bits : Nat) : Parts :=
  let negative := 0x8000000000000000 ≤ bits
  let field : Nat := bits / leadingUnit % 0x800
  let fraction := bits % leadingUnit
  if field = 2047 then (if fraction = 0 then infinite negative else nan)
  else if field = 0 then finite negative fraction (-1074)
  else finite negative (leadingUnit + fraction) ((field : Int) - 1075)

def ofFloat (x : Float) : Parts := ofBits x.toBits.toNat

def toInt? : Parts → Option Int
  | finite negative m q =>
    let magnitude : Option Nat :=
      if 0 ≤ q then some (m * twoTo q.toNat)
      else if m % twoTo (-q).toNat = 0 then some (m / twoTo (-q).toNat)
      else none
    magnitude.map fun (n : Nat) => if negative then -(n : Int) else (n : Int)
  | _ => none

def toRat? : Parts → Option Rat
  | finite negative m q =>
    let magnitude : Rat :=
      if 0 ≤ q then Rat.ofInt (m * twoTo q.toNat : Nat) else mkRat m (twoTo (-q).toNat)
    some (if negative then -magnitude else magnitude)
  | _ => none

end Parts

/-- The quotient rounded to the nearest whole number, a half to the even neighbour. -/
def roundDiv (num den : Nat) : Nat :=
  let quotient := num / den
  let twice := 2 * (num % den)
  if twice < den then quotient
  else if den < twice then quotient + 1
  else quotient + quotient % 2

/-- `mantissa * 2 ^ exponent * 10 ^ places`, rounded to a whole number. -/
def scaleRound (mantissa : Nat) (exponent : Int) (places : Nat) : Nat :=
  if 0 ≤ exponent then mantissa * twoTo exponent.toNat * tenTo places
  else roundDiv (mantissa * tenTo places) (twoTo (-exponent).toNat)

/-- The nearest float that has at most `places` decimal places. -/
def roundPlaces (places : Nat) (x : Float) : Float :=
  match Parts.ofFloat x with
  | .finite negative m q =>
    if 0 ≤ q then x
    else
      let rounded := Float.ofScientific (scaleRound m q places) true places
      if negative then -rounded else rounded
  | _ => x

end TacticalDesign.Number
