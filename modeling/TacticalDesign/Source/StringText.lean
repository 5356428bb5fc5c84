import TacticalDesign.Text.Quoted
/-!
# The written form of strings with fields

The text between the quotes is written with as few escapes as possible, so the quotes are chosen to
suit the text: among those it does not hold, the first one in order that differs from its last
character.
-/

namespace TacticalDesign.Source

open Text

namespace StringText

def singleQuotes : List String := ["'", "\""]
def tripleQuotes : List String := ["\"\"\"", "'''"]
def allQuotes : List String := singleQuotes ++ tripleQuotes

/-- The escape of a character that no quote has. -/
def escapeFree : Char := '\x00'

/-- A character of a text; line feeds and tabs may be kept. -/
def writeChar (keepsLines : Bool) (c : Char) : List Char :=
  if keepsLines && (c = '\n' || c = '\t') then [c]
  else if c = backslash || !isPrintable c then escapeChar escapeFree c
  else [c]

def holds (part : String) (text : List Char) : Bool := isInfixOf part.toList text
where
  isInfixOf (part : List Char) : List Char → Bool
    | [] => part.isEmpty
    | c :: rest => part.isPrefixOf (c :: rest) || isInfixOf part rest

def possibleQuotes (quotes : List String) (text : List Char) : List String :=
  let quotes := if text.contains '\n' then quotes.filter (· ∈ tripleQuotes) else quotes
  quotes.filter fun q => !holds q text

/-- The body of a text and the quotes that can stand around it. A text that no quote suits is
written as a quoted text is. -/
def fit (keepsLines : Bool) (quotes : List String) (text : List Char) :
    List Char × List String :=
  let body := text.flatMap (writeChar keepsLines)
  match possibleQuotes quotes body with
  | [] =>
    let quote := quoteFor text
    let own := (quotes.find? fun q => q.toList.contains quote).getD (String.singleton quote)
    (text.flatMap (escapeChar quote), [own])
  | possible =>
    match body.getLast? with
    | none => (body, possible)
    | some last =>
      let clashes (q : String) : Bool := q.toList.head? == some last
      let sorted := possible.filter (fun q => !clashes q) ++ possible.filter clashes
      if sorted.head?.any clashes then (body.dropLast ++ [backslash, last], sorted)
      else (body, sorted)

def enclose (quote : String) (body : List Char) : String :=
  quote ++ String.ofList body ++ quote

def plain (text : String) : String :=
  match fit true allQuotes text.toList with
  | (body, quote :: _) => enclose quote body
  | (body, []) => String.ofList body

/-- Fits the parts of a string one after another; the quotes have to suit all of them. A part is
a text or the written form of a field; only in a text are line feeds and tabs escaped. -/
def fitParts (quotes : List String) : List (List Char × Bool) → Option (List Char × List String)
  | [] => some ([], quotes)
  | (text, isText) :: rest =>
    let (body, left) := fit (!isText) quotes text
    if left.any (· ∈ quotes) then
      (fitParts left rest).map fun (bodies, quotes) => (body ++ bodies, quotes)
    else none

/-- The string made of its parts. Where no quote suits all of them, three single quotes stand
around it and single quotes in it are escaped. -/
def joined (parts : List (List Char × Bool)) : String :=
  match fitParts allQuotes parts with
  | some (body, quote :: _) => enclose quote body
  | _ => enclose "'''" (parts.flatMap fun p => p.1.flatMap (escapeChar singleQuote))

end StringText

end TacticalDesign.Source
