/-!
# The parts of an interpolated string

The body of an interpolated string falls into texts and fields. A field holds the source of an
expression, what converts its value, and a format that may hold fields again, but no deeper ones.
-/

namespace TacticalDesign.Source

inductive RawPiece where
  /-- A text with its escapes. -/
  | text (body : List Char)
  /-- The source of an expression that is shown in front of its value. -/
  | label (text : List Char)
  | field (source : List Char) (conversion : Option Char) (format : Option (List RawPiece))

namespace Interpolation

/-- The text up to a field or a closing brace. In the outermost text a doubled brace stands for
one, and a closing brace cannot stand alone; a named character is passed over with its braces. -/
def takeText (isRaw isOuter : Bool) (fuel : Nat) (cs : List Char) :
    Option (List Char × List Char) :=
  match fuel, cs with
  | 0, _ => none
  | _, [] => some ([], [])
  | fuel + 1, c :: rest =>
    let keep (taken rest : List Char) : Option (List Char × List Char) :=
      (takeText isRaw isOuter fuel rest).map fun (text, rest) => (taken ++ text, rest)
    if c = '\x5c' && !isRaw then
      match rest with
      | 'N' :: '\x7b' :: more =>
        let name := more.takeWhile (· ≠ '\x7d')
        keep ('\x5c' :: 'N' :: '\x7b' :: name ++ ['\x7d']) (more.drop (name.length + 1))
      | d :: more => if d = '\x7b' || d = '\x7d' then keep [c] rest else keep [c, d] more
      | [] => keep [c] []
    else if c = '\x7b' || c = '\x7d' then
      if isOuter then
        if rest.head? = some c then keep [c] (rest.drop 1)
        else if c = '\x7d' then none
        else some ([], cs)
      else some ([], cs)
    else keep [c] rest

def bracketLimit : Nat := 200

def matchingBracket (c : Char) : Char :=
  if c = ')' then '(' else if c = ']' then '[' else '\x7b'

/-- The source of an expression up to what ends it outside of quotes and brackets: a single `!`,
`:`, `=` or closing brace. Backslashes and comments cannot stand in it. -/
def takeSource (fuel : Nat) (brackets : List Char) (quote : Option (List Char))
    (cs : List Char) : Option (List Char × List Char) :=
  match fuel, cs with
  | 0, _ => none
  | _, [] => none
  | fuel + 1, c :: rest =>
    let keep (brackets : List Char) (quote : Option (List Char)) (count : Nat) :
        Option (List Char × List Char) :=
      (takeSource fuel brackets quote (cs.drop count)).map fun (source, rest) =>
        (cs.take count ++ source, rest)
    if c = '\x5c' then none
    else
      match quote with
      | some q => if q.isPrefixOf cs then keep brackets none q.length else keep brackets quote 1
      | none =>
        if c = '\x27' || c = '\x22' then
          if [c, c, c].isPrefixOf cs then keep brackets (some [c, c, c]) 3
          else keep brackets (some [c]) 1
        else if c = '[' || c = '\x7b' || c = '(' then
          if bracketLimit ≤ brackets.length then none else keep (c :: brackets) none 1
        else if c = '#' then none
        else if brackets.isEmpty && rest.head? = some '=' &&
            (c = '!' || c = '=' || c = '<' || c = '>') then
          keep brackets none 2
        else if brackets.isEmpty && (c = '!' || c = ':' || c = '\x7d' || c = '=') then
          some ([], cs)
        else if c = ']' || c = '\x7d' || c = ')' then
          if brackets.head? = some (matchingBracket c) then keep (brackets.drop 1) none 1
          else none
        else keep brackets none 1

/-- Blanks that an expression may consist of without being one. -/
def isGap (c : Char) : Bool := c = ' ' || c = '\t' || c = '\n' || c = '\x0c'

def isLabelGap (c : Char) : Bool := isGap c || c = '\x0b' || c = '\r'

def takeLabel (source cs : List Char) : Option (List Char) × List Char :=
  match cs with
  | '=' :: rest =>
    let gap := rest.takeWhile isLabelGap
    (some (source ++ '=' :: gap), rest.drop gap.length)
  | _ => (none, cs)

def takeConversion (cs : List Char) : Option (Option Char × List Char) :=
  match cs with
  | '!' :: c :: rest => if c = 's' || c = 'r' || c = 'a' then some (some c, rest) else none
  | '!' :: [] => none
  | _ => some (none, cs)

def depthLimit : Nat := 2

mutual

/-- The parts up to the end or, inside of a format, up to its closing brace. -/
def takePieces (isRaw : Bool) (depth fuel : Nat) (cs : List Char) :
    Option (List RawPiece × List Char) :=
  match fuel with
  | 0 => none
  | fuel + 1 => do
    let (text, rest) ← takeText isRaw (depth = 0) (cs.length + 1) cs
    let texts := if text.isEmpty then [] else [.text text]
    match rest with
    | '\x7b' :: rest =>
      let (field, rest) ← takeField isRaw depth fuel rest
      let (more, rest) ← takePieces isRaw depth fuel rest
      return (texts ++ field ++ more, rest)
    | rest => return (texts, rest)

/-- A field behind its opening brace. A label without a format or a conversion shows the value in
its written form. -/
def takeField (isRaw : Bool) (depth fuel : Nat) (cs : List Char) :
    Option (List RawPiece × List Char) :=
  match fuel with
  | 0 => none
  | fuel + 1 => do
    guard (depth < depthLimit)
    let (source, rest) ← takeSource (cs.length + 1) [] none cs
    guard (!source.all isGap)
    let (label, rest) := takeLabel source rest
    let (conversion, rest) ← takeConversion rest
    let (format, rest) ← takeFormat isRaw depth fuel rest
    match rest with
    | '\x7d' :: rest =>
      let conversion :=
        if label.isSome && format.isNone && conversion.isNone then some 'r' else conversion
      return ((label.map RawPiece.label).toList ++ [.field source conversion format], rest)
    | _ => none

def takeFormat (isRaw : Bool) (depth fuel : Nat) (cs : List Char) :
    Option (Option (List RawPiece) × List Char) :=
  match fuel, cs with
  | fuel + 1, ':' :: rest => do
    let (pieces, rest) ← takePieces isRaw (depth + 1) fuel rest
    return (some pieces, rest)
  | _, cs => some (none, cs)

end

end Interpolation

def rawPieces (isRaw : Bool) (body : List Char) : Option (List RawPiece) :=
  match Interpolation.takePieces isRaw 0 (4 * body.length + 4) body with
  | some (pieces, []) => some pieces
  | _ => none

end TacticalDesign.Source
