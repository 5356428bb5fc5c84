import TacticalDesign.Number.Decimal
import TacticalDesign.Number.Reading
import TacticalDesign.Source.Token
import TacticalDesign.Text.CharClass
import TacticalDesign.Text.Quoted
/-!
# Literals

The values that numbers and strings of module source stand for.
-/

namespace TacticalDesign.Source

inductive Literal where
  | none
  | bool (value : Bool)
  | ellipsis
  | int (value : Nat)
  | float (value : Float)
  | imaginary (value : Float)
  /-- A text; it is marked when its first part carries a small `u`. -/
  | text (value : String) (marked : Bool)
  | bytes (value : List Nat)

namespace Literal

def isTruthy : Literal → Bool
  | none => false
  | bool b => b
  | ellipsis => true
  | int n => n ≠ 0
  | float x => !(x == 0)
  | imaginary x => !(x == 0)
  | text s _ => !s.isEmpty
  | bytes bs => !bs.isEmpty

/-- Flags count as whole numbers. -/
def isWhole : Literal → Bool
  | bool _ => true
  | int _ => true
  | _ => false

/-! ## Numbers -/

def digitValue (c : Char) : Nat :=
  let n := (Text.lowerAscii c).toNat
  if n < 58 then n - 48 else n - 87

def basedValue (base : Nat) (digits : List Char) : Nat :=
  digits.foldl (fun n c => base * n + digitValue c) 0

def decimalValue (text : List Char) : Float :=
  (Number.WrittenDecimal.ofText? text).elim 0 fun d => d.toFloat false

/-- The value of a number's text. A decimal whole number of more than `Number.digitLimit` digits has
none. -/
def ofNumber (text : List Char) : Option Literal :=
  let text := text.filter (· ≠ '_')
  match text with
  | '0' :: b :: digits =>
    if b = 'x' || b = 'X' then some (int (basedValue 16 digits))
    else if b = 'o' || b = 'O' then some (int (basedValue 8 digits))
    else if b = 'b' || b = 'B' then some (int (basedValue 2 digits))
    else decimal text
  | _ => decimal text
where
  decimal (text : List Char) : Option Literal :=
    match text.getLast? with
    | some 'j' => some (imaginary (decimalValue text.dropLast))
    | some 'J' => some (imaginary (decimalValue text.dropLast))
    | _ =>
      if text.all Number.isDigit then
        if text.length ≤ Number.digitLimit then some (int (Number.digitsValue text))
        else Option.none
      else some (float (decimalValue text))

/-! ## Escapes -/

def isOctalDigit (c : Char) : Bool := '0' ≤ c && c ≤ '7'

def isHexDigit (c : Char) : Bool :=
  Text.isAsciiDigit c || ('a' ≤ c && c ≤ 'f') || ('A' ≤ c && c ≤ 'F')

def takeHex (width : Nat) (cs : List Char) : Option (Nat × List Char) :=
  let digits := cs.take width
  if digits.length = width && digits.all isHexDigit then
    some (basedValue 16 digits, cs.drop width)
  else Option.none

def takeOctal (cs : List Char) : Nat × List Char :=
  let digits := (cs.take 3).takeWhile isOctalDigit
  (basedValue 8 digits, cs.drop digits.length)

def simpleEscape? (c : Char) : Option Char :=
  [('\x5c', '\x5c'), ('\x27', '\x27'), ('\x22', '\x22'), ('a', '\x07'), ('b', '\x08'),
    ('f', '\x0c'), ('n', '\n'), ('r', '\r'), ('t', '\t'), ('v', '\x0b')].lookup c

def isCharNamePart (c : Char) : Bool :=
  Text.isAsciiLetter c || Text.isAsciiDigit c || c = ' ' || c = '-'

/-- The character with a name. There is no table of names: any name stands for the replacement
character, wherever the text goes. -/
def takeNamed (cs : List Char) : Option (Nat × List Char) :=
  match cs with
  | '\x7b' :: rest =>
    let name := rest.takeWhile isCharNamePart
    match rest.drop name.length with
    | '\x7d' :: rest => if name.isEmpty then Option.none else some (0xfffd, rest)
    | _ => Option.none
  | _ => Option.none

/-- Reads the escape behind a backslash: what it stands for, and the rest of the text. Without an
escape the backslash stands for itself. -/
def escape (inText : Bool) (cs : List Char) : Option (List Nat × List Char) :=
  let one (r : Option (Nat × List Char)) : Option (List Nat × List Char) :=
    r.bind fun (n, rest) => if 0x10ffff < n then Option.none else some ([n], rest)
  match cs with
  | [] => some ([0x5c], [])
  | '\n' :: rest => some ([], rest)
  | c :: rest =>
    match simpleEscape? c with
    | some d => some ([d.toNat], rest)
    | Option.none =>
      if isOctalDigit c then
        let (n, rest) := takeOctal cs
        some ([if inText then n else n % 256], rest)
      else if c = 'x' then one (takeHex 2 rest)
      else if inText && c = 'u' then one (takeHex 4 rest)
      else if inText && c = 'U' then one (takeHex 8 rest)
      else if inText && c = 'N' then one (takeNamed rest)
      else some ([0x5c, c.toNat], rest)

def unescape (inText : Bool) (fuel : Nat) (cs : List Char) : Option (List Nat) :=
  match fuel, cs with
  | fuel + 1, '\x5c' :: rest => do
    let (ns, rest) ← escape inText rest
    return ns ++ (← unescape inText fuel rest)
  | fuel + 1, c :: rest => do
    return c.toNat :: (← unescape inText fuel rest)
  | _, [] => some []
  | 0, _ => Option.none

def decodeText (isRaw : Bool) (body : List Char) : Option String :=
  if isRaw then some (String.ofList body)
  else (unescape true (body.length + 1) body).map fun ns => String.ofList (ns.map Char.ofNat)

def decodeBytes (isRaw : Bool) (body : List Char) : Option (List Nat) :=
  if body.any fun c => 128 ≤ c.toNat then Option.none
  else if isRaw then some (body.map Char.toNat)
  else unescape false (body.length + 1) body

end Literal

end TacticalDesign.Source
