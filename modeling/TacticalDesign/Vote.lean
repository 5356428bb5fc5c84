import TacticalDesign.Number.Compare
/-!
# Votes

What a vote has to be able to do: start from weights and scores, add up, be rounded to four decimal
places, and compare. Scans count in floats; exact fractions count without any error of addition.
-/

namespace TacticalDesign

class Vote (V : Type) where
  zero : V
  ofNumber : Number → V
  add : V → V → V
  sub : V → V → V
  mul : V → V → V
  div : V → V → V
  /-- The nearest vote of at most four decimal places. -/
  round : V → V
  lt : V → V → Bool
  le : V → V → Bool
  same : V → V → Bool

namespace Vote

def places : Nat := 4

instance : Vote Float where
  zero := 0
  ofNumber := Number.toFloat
  add := (· + ·)
  sub := (· - ·)
  mul := (· * ·)
  div := (· / ·)
  round := Number.roundPlaces places
  lt x y := x < y
  le x y := x ≤ y
  same x y := x == y

def roundRat (q : Rat) : Int :=
  let n := Number.roundDiv q.num.natAbs q.den
  if q.num < 0 then -(n : Int) else n

instance : Vote Rat where
  zero := 0
  ofNumber n := n.toRat?.getD 0
  add := (· + ·)
  sub := (· - ·)
  mul := (· * ·)
  div := (· / ·)
  round q := mkRat (roundRat (q * Rat.ofInt (Number.tenTo places))) (Number.tenTo places)
  lt p q := p < q
  le p q := p ≤ q
  same p q := p = q

instance : Vote Number where
  zero := .int 0
  ofNumber := id
  add := Number.add
  sub := Number.sub
  mul := Number.mul
  div := Number.div
  round := Number.round places
  lt := Number.lt
  le := Number.le
  same := Number.same

end Vote

end TacticalDesign
