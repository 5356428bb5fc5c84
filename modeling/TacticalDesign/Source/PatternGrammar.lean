import TacticalDesign.Source.Grammar
/-!
# The grammar of patterns

The patterns of a `match` statement are checked and not kept.
-/

namespace TacticalDesign.Source

namespace Pattern

open TacticalDesign.Source.Parser

/-- A word that is no keyword and stands for anything. -/
def wildcard : String := "_"

def continuesName : Parser Bool := do
  if ← atOp "." then return true
  if ← atOp "(" then return true
  atOp "="

def capture : Parser Unit := do
  if ← at? (.name wildcard) then failure
  let _ ← name
  if ← continuesName then failure

def isImaginary (text : List Char) : Bool :=
  text.getLast?.any fun c => c = 'j' || c = 'J'

def numberText : Parser (List Char) := fun ts =>
  match ts with
  | .number text :: rest => (Literal.ofNumber text).map fun _ => (text, rest)
  | _ => none

/-- A number with a sign, or the sum of a real and an imaginary one. -/
def number : Parser Unit := do
  let _ ← takeOp "-"
  let first ← numberText
  if (← atOp "+") || (← atOp "-") then
    op "+" <|> op "-"
    let second ← numberText
    if isImaginary first || !isImaginary second then failure

variable (g : Grammar)

def literal : Parser Unit :=
  number <|> (do let _ ← g.strings) <|> keyword "None" <|> keyword "True" <|> keyword "False"

def dottedRest : Parser Bool := do
  return !(← many (do op "."; name)).isEmpty

def dotted : Parser Unit := do
  let _ ← name
  if !(← dottedRest) || (← continuesName) then failure

section Nested

variable (inner : Parser Unit)

def element : Parser Bool := do
  if ← takeOp "*" then
    capture <|> softKeyword wildcard
    return true
  inner
  return false

/-- Elements where one alone is a pattern without a star. -/
def elements : Parser Unit := do
  match ← commaSeparated (element inner) with
  | ([true], false) => failure
  | _ => return ()

def sequenceUpTo (closing : String) : Parser Unit := do
  if ← atOp closing then return ()
  let _ ← commaSeparated (element inner)

def entry : Parser Bool := do
  if ← takeOp "**" then
    capture
    return true
  literal g <|> dotted
  op ":"
  inner
  return false

def mapping : Parser Unit := do
  if ← atOp "\x7d" then return ()
  let (takesRest, _) ← commaSeparated (entry g inner)
  if takesRest.dropLast.any id then failure

def argument : Parser Bool := do
  if ← atNameAnd "=" then
    let _ ← name
    op "="
    inner
    return true
  inner
  return false

def arguments : Parser Unit := do
  if ← atOp ")" then return ()
  let (named, _) ← commaSeparated (argument inner)
  if (named.dropWhile (!·)).any (!·) then failure

/-- A name that is captured, a dotted name, or a class with its arguments. -/
def named : Parser Unit := do
  let _ ← name
  let isDotted ← dottedRest
  if ← atOp "(" then between "(" (arguments inner) ")"
  else if isDotted then
    if ← continuesName then failure
  else if ← continuesName then failure

def closed : Parser Unit := do
  if ← takeToken (.name wildcard) then return ()
  if ← atOp "(" then
    between "(" (do if ← atOp ")" then return () else elements inner) ")"
  else if ← atOp "[" then between "[" (sequenceUpTo inner "]") "]"
  else if ← atOp "\x7b" then between "\x7b" (mapping g inner) "\x7d"
  else literal g <|> named inner

def alternatives : Parser Unit := do
  closed g inner
  let _ ← many (do op "|"; closed g inner)
  let _ ← optionally (do keyword "as"; capture)

end Nested

def ofDepth : Nat → Parser Unit
  | 0 => failure
  | n + 1 => alternatives g (ofDepth n)

/-- What stands behind `case`: a pattern, or a sequence of them without brackets. -/
def top (depth : Nat) : Parser Unit := elements (ofDepth g depth)

end Pattern

end TacticalDesign.Source
