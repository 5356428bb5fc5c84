import TacticalDesign.Text.CharClass
/-!
# Reading numbers

The value of a digit string, the float nearest to a decimal, and numbers as arguments give them:
with blanks around them, a sign, low lines between digits, and the decimal digits of any script.
-/

namespace TacticalDesign.Number

def isDigit (c : Char) : Bool := '0' ≤ c && c ≤ '9'

def digitsValue (digits : List Char) : Nat :=
  digits.foldl (fun n c => 10 * n + (c.toNat - 48)) 0

/-- A whole number of more digits is refused wherever one is read. -/
def digitLimit : Nat := 4300

/-- The float nearest to `± digits * 10 ^ exponent`. Beyond 400 powers of ten either way the answer
is an infinity or zero, whatever the digits. -/
def decimalFloat (negative : Bool) (digits : List Char) (exponent : Int) : Float :=
  let digits := digits.dropWhile (· = '0')
  let size : Int := digits.length + exponent
  let magnitude : Float :=
    if digits.isEmpty then 0
    else if 400 < size then Float.ofScientific 1 false 400
    else if size < -400 then 0
    else Float.ofScientific (digitsValue digits) (exponent < 0) exponent.natAbs
  if negative then -magnitude else magnitude

/-- A sign in front of a text, true for a minus, and what follows it. -/
def splitSign : List Char → Bool × List Char
  | '-' :: rest => (true, rest)
  | '+' :: rest => (false, rest)
  | text => (false, text)

/-! ## Decimals -/

/-- A decimal without a sign: the digits around its point and its power of ten. -/
structure WrittenDecimal where
  whole : List Char
  fraction : List Char
  power : Int
  deriving DecidableEq, Repr

namespace WrittenDecimal

/-- The power of ten that a text is: nothing, or a letter, a sign and digits. -/
def powerOf? : List Char → Option Int
  | [] => some 0
  | c :: rest =>
    let (negative, digits) := splitSign rest
    if (c = 'e' || c = 'E') && !digits.isEmpty && digits.all isDigit then
      let value : Int := digitsValue digits
      some (if negative then -value else value)
    else none

def ofText? (text : List Char) : Option WrittenDecimal :=
  let whole := text.takeWhile isDigit
  let rest := text.dropWhile isDigit
  let (fraction, rest) := match rest with
    | '.' :: more => (more.takeWhile isDigit, more.dropWhile isDigit)
    | _ => ([], rest)
  if whole.isEmpty && fraction.isEmpty then none
  else (powerOf? rest).map fun power => ⟨whole, fraction, power⟩

def toFloat (d : WrittenDecimal) (negative : Bool) : Float :=
  decimalFloat negative (d.whole ++ d.fraction) (d.power - d.fraction.length)

end WrittenDecimal

/-! ## Arguments -/

/-- A text in ASCII: digits of other scripts become digits, other blanks become blanks. -/
def asciiText (text : List Char) : List Char :=
  text.map fun c =>
    if c.toNat < 128 then c
    else if Text.isBlank c then ' '
    else match Text.decimalValue? c with
      | some n => Char.ofNat (48 + n)
      | none => c

def isAsciiBlank (c : Char) : Bool := c = ' ' || (9 ≤ c.toNat && c.toNat ≤ 13)

def trimAscii (text : List Char) : List Char :=
  ((text.dropWhile isAsciiBlank).reverse.dropWhile isAsciiBlank).reverse

/-- A text without the low lines that stand between two digits; none if one stands elsewhere. -/
def dropLowLines (afterDigit : Bool) : List Char → Option (List Char)
  | [] => some []
  | ['_'] => none
  | '_' :: c :: rest =>
    if afterDigit && isDigit c then (dropLowLines true rest).map (c :: ·) else none
  | c :: rest => (dropLowLines (isDigit c) rest).map (c :: ·)

def signedBody? (text : String) : Option (Bool × List Char) :=
  let (negative, body) := splitSign (trimAscii (asciiText text.toList))
  (dropLowLines false body).map fun body => (negative, body)

def intOfText? (text : String) : Option Int :=
  match signedBody? text with
  | some (negative, digits) =>
    if digits.isEmpty || !digits.all isDigit || digitLimit < digits.length then none
    else
      let value : Int := digitsValue digits
      some (if negative then -value else value)
  | none => none

/-- The float that an argument gives; words for infinity and for no number count. -/
def floatOfText? (text : String) : Option Float :=
  match signedBody? text with
  | some (negative, body) =>
    let word := String.ofList (body.map Text.lowerAscii)
    if word = "nan" then some (0 / 0)
    else if word = "inf" ∨ word = "infinity" then some (if negative then -1 / 0 else 1 / 0)
    else (WrittenDecimal.ofText? body).map fun d => d.toFloat negative
  | none => none

end TacticalDesign.Number
