import TacticalDesign.Number.Parts
/-!
# Decimal texts of floats

The shortest decimal that reads back as the same float, and a fixed number of places. Both are
computed exactly from the parts of the float.
-/

namespace TacticalDesign.Number

/-- A positive decimal `digits * 10 ^ exponent`. -/
structure Decimal where
  digits : Nat
  exponent : Int
  deriving DecidableEq, Repr

/-- `n * 10 ^ e ≤ m * 2 ^ q`, in whole numbers. -/
def decimalLe (n : Nat) (e : Int) (m : Nat) (q : Int) : Bool :=
  n * tenTo e.toNat * twoTo (-q).toNat ≤ m * twoTo q.toNat * tenTo (-e).toNat

/-- `m * 2 ^ q ≤ n * 10 ^ e`, in whole numbers. -/
def binaryLe (m : Nat) (q : Int) (n : Nat) (e : Int) : Bool :=
  m * twoTo q.toNat * tenTo (-e).toNat ≤ n * tenTo e.toNat * twoTo (-q).toNat

/-- The reals that round to `mantissa * 2 ^ exponent`, in quarters of a unit: from `lower` to
`upper`, the ends included when the mantissa is even. -/
structure Rounding where
  lower : Nat
  value : Nat
  upper : Nat
  exponent : Int
  closed : Bool

def Rounding.of (mantissa : Nat) (exponent : Int) : Rounding where
  lower :=
    if mantissa = Parts.leadingUnit ∧ -1074 < exponent then 4 * mantissa - 1
    else 4 * mantissa - 2
  value := 4 * mantissa
  upper := 4 * mantissa + 2
  exponent := exponent - 2
  closed := mantissa % 2 = 0

def Rounding.contains (r : Rounding) (n : Nat) (e : Int) : Bool :=
  if r.closed then binaryLe r.lower r.exponent n e && decimalLe n e r.upper r.exponent
  else !decimalLe n e r.lower r.exponent && !binaryLe r.upper r.exponent n e

/-- `⌊m * 2 ^ q / 10 ^ e⌋`. -/
def floorAt (m : Nat) (q e : Int) : Nat :=
  m * twoTo q.toNat * tenTo (-e).toNat / (tenTo e.toNat * twoTo (-q).toNat)

/-- Whether `n * 10 ^ e` is nearer to the value than `(n + 1) * 10 ^ e`, ties to the even one. -/
def lowerIsNearer (r : Rounding) (n : Nat) (e : Int) : Bool :=
  -- twice the value against `(2 n + 1) * 10 ^ e`
  let below := !binaryLe r.value (r.exponent + 1) (2 * n + 1) e
  let above := !decimalLe (2 * n + 1) e r.value (r.exponent + 1)
  if below then false else if above then true else n % 2 = 0

/-- The neighbour of the value on the grid `10 ^ e` that reads back, if there is one. -/
def gridHit (r : Rounding) (e : Int) : Option Nat :=
  let n := floorAt r.value r.exponent e
  match 0 < n && r.contains n e, r.contains (n + 1) e with
  | true, true => some (if lowerIsNearer r n e then n else n + 1)
  | true, false => some n
  | false, true => some (n + 1)
  | false, false => none

/-- The least `k` from `start` on with `m * 2 ^ q < 10 ^ k`. -/
def magnitude (m : Nat) (q : Int) (start : Int) : Nat → Int
  | 0 => start
  | fuel + 1 => if binaryLe m q 1 start && !decimalLe 1 start m q then start
    else magnitude m q (start + 1) fuel

def Decimal.trim (d : Decimal) : Decimal := go d.digits d.exponent d.digits
where
  go (n : Nat) (e : Int) : Nat → Decimal
    | 0 => ⟨n, e⟩
    | fuel + 1 => if n ≠ 0 ∧ n % 10 = 0 then go (n / 10) (e + 1) fuel else ⟨n, e⟩

/-- The grids on which the value is looked for, the coarsest first. Seventeen digits always
suffice. -/
def Rounding.grids (r : Rounding) : List Int :=
  let top := magnitude r.value r.exponent (-330) 700
  (List.range 17).map fun (i : Nat) => top - 1 - (i : Int)

def Rounding.firstHit (r : Rounding) (grids : List Int) : Option Decimal :=
  grids.findSome? fun e => (gridHit r e).map fun n => ⟨n, e⟩

/-- The decimal with the fewest digits that rounds to `mantissa * 2 ^ exponent`, and of those the
nearest one. -/
def shortest (mantissa : Nat) (exponent : Int) : Decimal :=
  let r := Rounding.of mantissa exponent
  -- a hit has at most as many digits as its grid, so trimming is a bounded loop
  (r.firstHit r.grids).elim ⟨mantissa, exponent⟩ fun d => Decimal.trim.go d.digits d.exponent 20

def natText (n : Nat) : String := String.ofList (Nat.toDigits 10 n)

def intText (n : Int) : String :=
  if n < 0 then "-" ++ natText n.natAbs else natText n.natAbs

def zeros (n : Nat) : String := String.ofList (List.replicate n '0')

/-- How a program's report writes floats: positional notation from `10 ^ positionalFrom` up to but
excluding `10 ^ positionalBelow`, always with a fraction; otherwise one digit before the point, no
empty fraction, and an exponent with a sign and at least two digits. -/
structure FloatStyle where
  positionalFrom : Int
  positionalBelow : Int
  exponentWidth : Nat

def FloatStyle.standard : FloatStyle where
  positionalFrom := -4
  positionalBelow := 16
  exponentWidth := 2

def FloatStyle.decimalText (style : FloatStyle) (d : Decimal) : String :=
  let digits := Nat.toDigits 10 d.digits
  let count := digits.length
  -- the value is `0.digits * 10 ^ point`
  let point : Int := count + d.exponent
  if style.positionalFrom < point ∧ point ≤ style.positionalBelow then
    if point ≤ 0 then "0." ++ zeros (-point).toNat ++ String.ofList digits
    else if (count : Int) ≤ point then
      String.ofList digits ++ zeros (point.toNat - count) ++ ".0"
    else String.ofList (digits.take point.toNat) ++ "." ++ String.ofList (digits.drop point.toNat)
  else
    let mark := match digits with
      | [] => "0"
      | [c] => String.singleton c
      | c :: rest => String.singleton c ++ "." ++ String.ofList rest
    let power := point - 1
    let powerDigits := natText power.natAbs
    mark ++ (if power < 0 then "e-" else "e+") ++
      zeros (style.exponentWidth - powerDigits.length) ++ powerDigits

def magnitudeText (mantissa : Nat) (exponent : Int) : String :=
  if mantissa = 0 then "0.0" else FloatStyle.standard.decimalText (shortest mantissa exponent)

/-- The shortest text that reads back as the same float. -/
def floatText (x : Float) : String :=
  match Parts.ofFloat x with
  | .nan => "nan"
  | .infinite negative => if negative then "-inf" else "inf"
  | .finite negative m q => if negative then "-" ++ magnitudeText m q else magnitudeText m q

/-- The text with exactly `places` decimal places, rounded from the exact value of the float, a
half to the even neighbour. -/
def fixedText (places : Nat) (x : Float) : String :=
  match Parts.ofFloat x with
  | .nan => "nan"
  | .infinite negative => if negative then "-inf" else "inf"
  | .finite negative m q =>
    let n := scaleRound m q places
    let digits := natText n
    let padded := zeros (places + 1 - digits.length) ++ digits
    let chars := padded.toList
    let split := chars.length - places
    let body := String.ofList (chars.take split) ++
      (if places = 0 then "" else "." ++ String.ofList (chars.drop split))
    if negative then "-" ++ body else body

end TacticalDesign.Number
