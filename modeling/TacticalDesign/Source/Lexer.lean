import TacticalDesign.Source.Token
import TacticalDesign.Text.CharClass
import TacticalDesign.Text.Trim
/-!
# From text to tokens

Lines end logical lines outside of brackets, and the blanks in front of a logical line give its
indentation. A text that cannot be split into tokens has none at all.
-/

namespace TacticalDesign.Source

open Text

namespace Lexer

/-! ## Words -/

/-- Characters that may belong to a name before it is looked at closely. -/
def isNameChar (c : Char) : Bool :=
  isAsciiLetter c || isAsciiDigit c || c = '_' || 128 ≤ c.toNat

def isName : List Char → Bool
  | [] => false
  | c :: rest => isIdentifierStart c && rest.all isIdentifierPart

/-! ## Numbers -/

def isHexDigit (c : Char) : Bool :=
  isAsciiDigit c || ('a' ≤ c && c ≤ 'f') || ('A' ≤ c && c ≤ 'F')

/-- Words that may follow a number without a blank. -/
def followers : List String := ["and", "else", "for", "if", "in", "is", "or", "not"]

def mayEndNumber (rest : List Char) : Bool :=
  !(rest.head?.any isNameChar) || followers.any fun w => w.toList.isPrefixOf rest

def splitWhile (p : Char → Bool) (cs : List Char) : List Char × List Char :=
  (cs.takeWhile p, cs.dropWhile p)

/-- Digits with single low lines between them. -/
def takeDigits (isDigit : Char → Bool) : Nat → List Char → Option (List Char × List Char)
  | 0, _ => none
  | fuel + 1, cs =>
    match splitWhile isDigit cs with
    | ([], _) => none
    | (digits, '_' :: rest) =>
      match takeDigits isDigit fuel rest with
      | some (more, rest) => some (digits ++ '_' :: more, rest)
      | none => none
    | r => some r

def digits (isDigit : Char → Bool) (cs : List Char) : Option (List Char × List Char) :=
  takeDigits isDigit (cs.length + 1) cs

def basedNumber (isDigit : Char → Bool) (cs : List Char) : Option (List Char × List Char) :=
  let (mark, cs) := match cs with
    | '_' :: rest => (['_'], rest)
    | _ => ([], cs)
  match digits isDigit cs with
  | none => none
  | some (ds, rest) => if mayEndNumber rest then some (mark ++ ds, rest) else none

def takeFraction (cs : List Char) : Option (List Char × List Char) :=
  if cs.head?.any isAsciiDigit then digits isAsciiDigit cs else some ([], cs)

def takeExponent (cs : List Char) : Option (List Char × List Char) :=
  match cs with
  | e :: rest =>
    if e = 'e' || e = 'E' then
      match rest with
      | sign :: more =>
        if sign = '+' || sign = '-' then
          (digits isAsciiDigit more).map fun (ds, rest) => (e :: sign :: ds, rest)
        else if isAsciiDigit sign then
          (digits isAsciiDigit rest).map fun (ds, rest) => (e :: ds, rest)
        else some ([], cs)
      | [] => some ([], cs)
    else some ([], cs)
  | [] => some ([], cs)

/-- What may follow the digits before a decimal point. A whole number that starts with a zero has
no other digit than zero. -/
def decimalTail (whole cs : List Char) : Option (List Char × List Char) := do
  let (point, fraction, cs) ← match cs with
    | '.' :: rest => (takeFraction rest).map fun (ds, rest) => (true, '.' :: ds, rest)
    | _ => some (false, [], cs)
  let (exponent, cs) ← takeExponent cs
  let (unit, cs) := match cs with
    | c :: rest => if c = 'j' || c = 'J' then ([c], rest) else ([], cs)
    | [] => ([], cs)
  let isWhole := !point && exponent.isEmpty && unit.isEmpty
  if isWhole && whole.head? == some '0' && whole.any (fun c => c ≠ '0' && c ≠ '_') then none
  else if mayEndNumber cs then some (whole ++ fraction ++ exponent ++ unit, cs)
  else none

def number (cs : List Char) : Option (List Char × List Char) :=
  let based (isDigit : Char → Bool) (base : Char) (rest : List Char) :=
    (basedNumber isDigit rest).map fun (ds, rest) => ('0' :: base :: ds, rest)
  match cs with
  | '0' :: b :: rest =>
    if b = 'x' || b = 'X' then based isHexDigit b rest
    else if b = 'o' || b = 'O' then based (fun c => '0' ≤ c && c ≤ '7') b rest
    else if b = 'b' || b = 'B' then based (fun c => c = '0' || c = '1') b rest
    else (digits isAsciiDigit cs).bind fun (ds, rest) => decimalTail ds rest
  | '.' :: _ => decimalTail [] cs
  | cs => (digits isAsciiDigit cs).bind fun (ds, rest) => decimalTail ds rest

/-! ## Strings -/

def shortBody (quote : Char) : List Char → Option (List Char × List Char)
  | [] => none
  | '\x5c' :: c :: rest =>
    (shortBody quote rest).map fun (body, after) => ('\x5c' :: c :: body, after)
  | c :: rest =>
    if c = '\n' then none
    else if c = quote then some ([], rest)
    else (shortBody quote rest).map fun (body, after) => (c :: body, after)

def longBody (quote : Char) : List Char → Option (List Char × List Char)
  | [] => none
  | '\x5c' :: c :: rest =>
    (longBody quote rest).map fun (body, after) => ('\x5c' :: c :: body, after)
  | c :: rest =>
    if [quote, quote, quote].isPrefixOf (c :: rest) then some ([], rest.drop 2)
    else (longBody quote rest).map fun (body, after) => (c :: body, after)

def stringBody (cs : List Char) : Option (List Char × List Char) :=
  match cs with
  | [] => none
  | quote :: rest =>
    if [quote, quote].isPrefixOf rest then longBody quote (rest.drop 2) else shortBody quote rest

def stringLetters : List (List Char) :=
  ["", "b", "u", "r", "f", "br", "rb", "fr", "rf"].map (·.toList)

def stringLiteral (cs : List Char) : Option (Option (StringToken × List Char)) :=
  let (letters, rest) := splitWhile isAsciiLetter cs
  let lowered := letters.map Text.lowerAscii
  if (rest.head?.any fun c => c = '\x22' || c = '\x27') && lowered ∈ stringLetters then
    some ((stringBody rest).map fun (body, rest) =>
      (⟨'b' ∈ lowered, 'r' ∈ lowered, 'f' ∈ lowered, letters = ['u'], body⟩, rest))
  else none

/-! ## Indentation -/

/-- An indentation is measured twice: with tabs up to the next multiple of eight, and with tabs as
one blank. Both have to agree about every pair of lines. -/
structure Indent where
  wide : Nat
  narrow : Nat
  deriving DecidableEq

def continued : List Char → Option (List Char)
  | '\n' :: c :: rest => some (c :: rest)
  | _ => none

/-- Measures the blanks at the front of a line. A backslash joins the next line; the first one that
stands behind blanks fixes the indentation. -/
def measure (fuel : Nat) (i : Indent) (fixed : Nat) (cs : List Char) :
    Option (Indent × List Char) :=
  match fuel, cs with
  | fuel + 1, ' ' :: rest => measure fuel ⟨i.wide + 1, i.narrow + 1⟩ fixed rest
  | fuel + 1, '\t' :: rest => measure fuel ⟨(i.wide / 8 + 1) * 8, i.narrow + 1⟩ fixed rest
  | fuel + 1, '\x0c' :: rest => measure fuel ⟨0, 0⟩ fixed rest
  | fuel + 1, '\x5c' :: rest =>
    match continued rest with
    | none => none
    | some rest => measure fuel i (if fixed = 0 then i.wide else fixed) rest
  | _, _ => some (if fixed = 0 then i else ⟨fixed, fixed⟩, cs)

def depthLimit : Nat := 100

def leave (i : Indent) : List Indent → Option (List Token × List Indent)
  | [] => none
  | top :: outer =>
    if i.wide < top.wide then (leave i outer).map fun (ts, stack) => (.dedent :: ts, stack)
    else if i = top then some ([], top :: outer)
    else none

def indentMarks (i : Indent) (stack : List Indent) : Option (List Token × List Indent) :=
  match stack with
  | [] => none
  | top :: _ =>
    if top.wide < i.wide then
      if top.narrow < i.narrow ∧ stack.length < depthLimit then some ([.indent], i :: stack)
      else none
    else leave i stack

/-! ## Lines -/

/-- Where the reader stands: the indentations of the open blocks, the open brackets, and whether a
line starts here. -/
structure State where
  blocks : List Indent
  brackets : List Char
  atLineStart : Bool

def bracketLimit : Nat := 200

def closes (closing : Char) : List Char → Bool
  | opening :: _ =>
    (opening = '(' && closing = ')') || (opening = '[' && closing = ']') ||
      (opening = '\x7b' && closing = '\x7d')
  | [] => false

def bracketsAfter (op : String) (brackets : List Char) : Option (List Char) :=
  match op.toList with
  | [c] =>
    if c = '(' || c = '[' || c = '\x7b' then
      if brackets.length < bracketLimit then some (c :: brackets) else none
    else if c = ')' || c = ']' || c = '\x7d' then
      if closes c brackets then some (brackets.drop 1) else none
    else some brackets
  | _ => some brackets

/-- A token that is neither a line end nor an operator. -/
def word (cs : List Char) : Option (Token × List Char) :=
  match stringLiteral cs with
  | some literal => literal.map fun (s, rest) => (.string s, rest)
  | none =>
    let (name, rest) := splitWhile isNameChar cs
    let text := String.ofList name
    if text ∈ reservedWords then some (.keyword text, rest)
    else if isName name then some (.name text, rest)
    else none

def startsNumber : List Char → Bool
  | '.' :: c :: _ => isAsciiDigit c
  | c :: _ => isAsciiDigit c
  | [] => false

def next (s : State) (cs : List Char) : Option (List Token × State × List Char) :=
  match cs with
  | [] => none
  | c :: rest =>
    if c = ' ' || c = '\t' || c = '\x0c' then some ([], s, rest)
    else if c = '#' then some ([], s, rest.dropWhile (· ≠ '\n'))
    else if c = '\n' then
      some (if s.brackets.isEmpty then [.lineEnd] else [], { s with atLineStart := true }, rest)
    else if c = '\x5c' then (continued rest).map fun rest => ([], s, rest)
    else if startsNumber cs then (number cs).map fun (text, rest) => ([.number text], s, rest)
    else if isNameChar c || c = '\x22' || c = '\x27' then
      (word cs).map fun (t, rest) => ([t], s, rest)
    else
      match operators.find? fun o => o.toList.isPrefixOf cs with
      | none => none
      | some o =>
        (bracketsAfter o s.brackets).map fun brackets =>
          ([.op o], { s with brackets }, cs.drop o.length)

/-- The start of a line: its indentation counts unless the line is blank or brackets are open. -/
def lineStart (s : State) (cs : List Char) : Option (List Token × State × List Char) := do
  let (i, rest) ← measure cs.length ⟨0, 0⟩ 0 cs
  match rest with
  | '#' :: _ => return ([], s, (rest.dropWhile (· ≠ '\n')).drop 1)
  | '\n' :: rest => return ([], s, rest)
  | _ =>
    if s.brackets.isEmpty then
      let (marks, blocks) ← indentMarks i s.blocks
      return (marks, { s with blocks, atLineStart := false }, rest)
    else return ([], { s with atLineStart := false }, rest)

def scan (fuel : Nat) (s : State) (cs : List Char) : Option (List Token) :=
  match fuel with
  | 0 => none
  | fuel + 1 =>
    if cs.isEmpty then
      if s.brackets.isEmpty then some (List.replicate (s.blocks.length - 1) .dedent) else none
    else do
      let (ts, s, rest) ← if s.atLineStart then lineStart s cs else next s cs
      return ts ++ (← scan fuel s rest)

end Lexer

def closeLastLine (cs : List Char) : List Char :=
  if cs.getLast? == some '\n' then cs else cs ++ ['\n']

def tokens (cs : List Char) : Option (List Token) :=
  let cs := closeLastLine (unifyLineEnds cs)
  if cs.contains '\x00' then none
  else Lexer.scan (2 * cs.length + 2) ⟨[⟨0, 0⟩], [], true⟩ cs

end TacticalDesign.Source
