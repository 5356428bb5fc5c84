import TacticalDesign.Text.ClassTable
import TacticalDesign.Text.CodeRange
/-!
# Character classes

ASCII is answered by comparison, everything beyond it by the property tables.
-/

namespace TacticalDesign.Text

private def letterRanges : Array CodeRange := rangesOfTable ClassTable.letters
private def decimalRanges : Array CodeRange := rangesOfTable ClassTable.decimals
private def unprintableRanges : Array CodeRange := rangesOfTable ClassTable.unprintable
private def identifierStartRanges : Array CodeRange := rangesOfTable ClassTable.identifierStarts
private def identifierPartRanges : Array CodeRange := rangesOfTable ClassTable.identifierParts

def isAsciiUpper (c : Char) : Bool := 'A' ≤ c && c ≤ 'Z'
def isAsciiLower (c : Char) : Bool := 'a' ≤ c && c ≤ 'z'
def isAsciiLetter (c : Char) : Bool := isAsciiUpper c || isAsciiLower c
def isAsciiDigit (c : Char) : Bool := '0' ≤ c && c ≤ '9'

def lowerAscii (c : Char) : Char := if isAsciiUpper c then Char.ofNat (c.toNat + 32) else c

def isDecimal (c : Char) : Bool :=
  if c.toNat < 128 then isAsciiDigit c else inRanges decimalRanges c.toNat

/-- The value of a decimal digit. The digits of every script follow each other from zero to nine. -/
def decimalValue? (c : Char) : Option Nat :=
  if c.toNat < 128 then if isAsciiDigit c then some (c.toNat - 48) else none
  else (findRange? decimalRanges c.toNat).map fun r => (c.toNat - r.first) % 10

def isAlphanumeric (c : Char) : Bool :=
  if c.toNat < 128 then isAsciiLetter c || isAsciiDigit c else inRanges letterRanges c.toNat

def isWordChar (c : Char) : Bool := c = '_' || isAlphanumeric c

def isBlank (c : Char) : Bool :=
  let n := c.toNat
  (9 ≤ n && n ≤ 13) || (28 ≤ n && n ≤ 32) || n = 0x85 || n = 0xa0 || n = 0x1680 ||
    (0x2000 ≤ n && n ≤ 0x200a) || n = 0x2028 || n = 0x2029 || n = 0x202f || n = 0x205f ||
    n = 0x3000

/-- Characters that a quoted text shows as they are. -/
def isPrintable (c : Char) : Bool :=
  let n := c.toNat
  if n < 128 then 32 ≤ n && n < 127 else !inRanges unprintableRanges n

def isIdentifierStart (c : Char) : Bool :=
  if c.toNat < 128 then c = '_' || isAsciiLetter c else inRanges identifierStartRanges c.toNat

def isIdentifierPart (c : Char) : Bool :=
  if c.toNat < 128 then c = '_' || isAsciiLetter c || isAsciiDigit c
  else inRanges identifierPartRanges c.toNat

end TacticalDesign.Text
