import TacticalDesign.Text.Lowercase
import TacticalDesign.Text.Trim
/-!
# The words of a name

A name in camel, Pascal or snake case falls into words: a run of capitals, a run of small letters
with the capital before it, or a run of digits. Of a run of capitals before a small letter the last
capital belongs to the next word. Everything else separates words.
-/

namespace TacticalDesign

namespace NameWords

open Text

/-- Whether `c` and the text behind it begin with one and the same word. -/
def joins (c : Char) : List Char → Bool
  | [] => false
  | d :: rest =>
    (isAsciiUpper c && isAsciiUpper d && !(rest.head?.any isAsciiLower)) ||
      (isAsciiUpper c && isAsciiLower d) ||
      (isAsciiLower c && isAsciiLower d) ||
      (isDecimal c && isDecimal d)

def isMember (c : Char) : Bool := isAsciiLetter c || isDecimal c

def attach (c : Char) : List (List Char) → List (List Char)
  | [] => [[c]]
  | word :: words => (c :: word) :: words

def scan : List Char → List (List Char)
  | [] => []
  | c :: rest =>
    if isMember c then
      if joins c rest then attach c (scan rest) else [c] :: scan rest
    else scan rest

end NameWords

def splitWords (name : String) : List String :=
  (NameWords.scan name.toList).map fun word => String.ofList (word.map Text.lowerAscii)

/-- A form of a name that does not depend on case and separators. -/
def normalizeName (name : String) : String := String.join (splitWords name)

/-- The first word of a name; the whole name in lower case when it has no words. -/
def leadingVerb (name : String) : String := (splitWords name).headD (Text.lower name)

/-- Names that open and close with two low lines around something. -/
def isSpecialName (name : String) : Bool :=
  let chars := name.toList
  Text.startsWith chars ['_', '_'] && Text.endsWith chars ['_', '_'] && 4 < chars.length

end TacticalDesign
