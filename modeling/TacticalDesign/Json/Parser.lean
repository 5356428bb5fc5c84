import TacticalDesign.Json.Value
import TacticalDesign.Number.Reading
/-!
# Reading JSON

A reader that also takes `NaN`, `Infinity` and `-Infinity`, keeps the last of several equal keys,
and names the place where a text stops being JSON. Places count code points.
-/

namespace TacticalDesign.Json

inductive SyntaxProblem where
  | byteOrderMark
  | value
  | propertyName
  | colon
  | comma
  | extraData
  | unterminatedString
  | controlCharacter
  | escape
  | unicodeEscape
  deriving DecidableEq, Repr

def SyntaxProblem.message : SyntaxProblem → String
  | byteOrderMark => "Unexpected UTF-8 BOM (decode using utf-8-sig)"
  | value => "Expecting value"
  | propertyName => "Expecting property name enclosed in double quotes"
  | colon => "Expecting ':' delimiter"
  | comma => "Expecting ',' delimiter"
  | extraData => "Extra data"
  | unterminatedString => "Unterminated string starting at"
  | controlCharacter => "Invalid control character at"
  | escape => "Invalid \\escape"
  | unicodeEscape => "Invalid \\uXXXX escape"

/-- What reading can fail with. A whole number of more than `Number.digitLimit` digits is
refused. -/
inductive ParseError where
  | malformed (problem : SyntaxProblem) (place : Nat)
  | tooManyDigits (digits place : Nat)
  deriving DecidableEq, Repr

def ParseError.place : ParseError → Nat
  | malformed _ place => place
  | tooManyDigits _ place => place

/-- Line and column of a place, both from one. -/
def lineAndColumn (place : Nat) (text : List Char) : Nat × Nat :=
  let before := text.take place
  let lastLine := before.reverse.takeWhile (· ≠ '\n')
  (before.count '\n' + 1, lastLine.length + 1)

def ParseError.message (text : List Char) : ParseError → String
  | malformed problem place =>
    let (line, column) := lineAndColumn place text
    problem.message ++ ": line " ++ natText line ++ " column " ++ natText column ++
      " (char " ++ natText place ++ ")"
  | tooManyDigits digits _ =>
    "Exceeds the limit (" ++ natText Number.digitLimit ++
      " digits) for integer string conversion: value has " ++ natText digits ++
      " digits; use sys.set_int_max_str_digits() to increase the limit"
where
  natText (n : Nat) : String := Number.natText n

namespace Parser

structure Input where
  rest : List Char
  place : Nat

abbrev Result (α : Type) := Except ParseError (α × Input)

def isSpace (c : Char) : Bool := c = ' ' || c = '\t' || c = '\n' || c = '\r'

def skipSpace (s : Input) : Input :=
  match s with
  | ⟨c :: rest, p⟩ => if isSpace c then skipSpace ⟨rest, p + 1⟩ else ⟨c :: rest, p⟩
  | ⟨[], p⟩ => ⟨[], p⟩
termination_by s.rest.length

def fail {α : Type} (problem : SyntaxProblem) (place : Nat) : Except ParseError α :=
  .error (.malformed problem place)

def hexValue? (c : Char) : Option Nat :=
  if '0' ≤ c ∧ c ≤ '9' then some (c.toNat - 48)
  else if 'a' ≤ c ∧ c ≤ 'f' then some (c.toNat - 87)
  else if 'A' ≤ c ∧ c ≤ 'F' then some (c.toNat - 55)
  else none

def fourHex? : List Char → Option (Nat × List Char)
  | a :: b :: c :: d :: rest =>
    match hexValue? a, hexValue? b, hexValue? c, hexValue? d with
    | some a, some b, some c, some d => some (((a * 16 + b) * 16 + c) * 16 + d, rest)
    | _, _, _, _ => none
  | _ => none

def simpleEscape? (c : Char) : Option Char :=
  match c with
  | '\x22' => some c
  | '\x5c' => some c
  | '/' => some c
  | 'b' => some '\x08'
  | 'f' => some '\x0c'
  | 'n' => some '\n'
  | 'r' => some '\r'
  | 't' => some '\t'
  | _ => none

/-- The outcome of reading one escape behind its backslash: the character and how many characters
the escape takes, or the place of the fault relative to the backslash. -/
inductive Escape where
  | char (c : Char) (length : Nat)
  | bad (problem : SyntaxProblem) (offset : Nat)
  | cutShort

/-- A code unit as a character; a surrogate that stands alone becomes a replacement character. -/
def unitChar (n : Nat) : Char :=
  if 0xd800 ≤ n ∧ n < 0xe000 then '\ufffd' else Char.ofNat n

def readEscape : List Char → Escape
  | [] => .cutShort
  | 'u' :: rest =>
    if rest.length ≤ 4 then .bad .unicodeEscape 1
    else match fourHex? rest with
      | none => .bad .unicodeEscape 1
      | some (high, rest') =>
        if 0xd800 ≤ high ∧ high < 0xdc00 ∧ 6 < rest'.length then
          match rest' with
          | '\x5c' :: 'u' :: more =>
            match fourHex? more with
            | none => .bad .unicodeEscape 7
            | some (low, _) =>
              if 0xdc00 ≤ low ∧ low < 0xe000 then
                .char (Char.ofNat (0x10000 + (high - 0xd800) * 0x400 + (low - 0xdc00))) 11
              else .char (unitChar high) 5
          | _ => .char (unitChar high) 5
        else .char (unitChar high) 5
  | c :: _ =>
    match simpleEscape? c with
    | some d => .char d 1
    | none => .bad .escape 0

/-- The rest of a string whose opening quote stands at `start`; `read` holds, in reverse, what came
so far. -/
def stringBody (start : Nat) (read : List Char) (s : Input) : Result String :=
  match s with
  | ⟨[], _⟩ => fail .unterminatedString start
  | ⟨c :: rest, p⟩ =>
    if c = '\x22' then .ok (String.ofList read.reverse, ⟨rest, p + 1⟩)
    else if c = '\x5c' then
      match readEscape rest with
      | .cutShort => fail .unterminatedString start
      | .bad problem offset => fail problem (p + offset)
      | .char d length => stringBody start (d :: read) ⟨rest.drop length, p + 1 + length⟩
    else if c.toNat < 32 then fail .controlCharacter p
    else stringBody start (c :: read) ⟨rest, p + 1⟩
termination_by s.rest.length
decreasing_by all_goals simp; try omega

def isDigit (c : Char) : Bool := Number.isDigit c

/-- The parts of a number's text: digits before and behind the point, and the exponent. -/
structure NumberText where
  negative : Bool
  whole : List Char
  fraction : Option (List Char)
  exponent : Option Int

def takeFraction (s : List Char) : Option (List Char) × List Char :=
  match s with
  | '.' :: rest =>
    let digits := rest.takeWhile isDigit
    if digits.isEmpty then (none, s) else (some digits, rest.dropWhile isDigit)
  | _ => (none, s)

def takeExponent (s : List Char) : Option Int × List Char :=
  match s with
  | c :: rest =>
    if c = 'e' || c = 'E' then
      let (negative, unsigned) := match rest with
        | '-' :: more => (true, more)
        | '+' :: more => (false, more)
        | _ => (false, rest)
      let digits := unsigned.takeWhile isDigit
      if digits.isEmpty then (none, s)
      else
        let value : Int := Number.digitsValue digits
        (some (if negative then -value else value), unsigned.dropWhile isDigit)
    else (none, s)
  | [] => (none, s)

def takeMinus (s : List Char) : Bool × List Char :=
  match s with
  | '-' :: rest => (true, rest)
  | _ => (false, s)

/-- The digits of a whole number at the front of a text; a zero stands alone. -/
def wholeDigits (s : List Char) : List Char :=
  match s with
  | '0' :: _ => ['0']
  | _ => s.takeWhile isDigit

def takeNumber (s : List Char) : Option (NumberText × List Char) :=
  let (negative, unsigned) := takeMinus s
  let whole := wholeDigits unsigned
  if whole.isEmpty then none
  else
    let (fraction, rest) := takeFraction (unsigned.drop whole.length)
    let (exponent, rest) := takeExponent rest
    some (⟨negative, whole, fraction, exponent⟩, rest)

def NumberText.value (n : NumberText) : Except Nat Number :=
  match n.fraction, n.exponent with
  | none, none =>
    if Number.digitLimit < n.whole.length then .error n.whole.length
    else
      let value : Int := Number.digitsValue n.whole
      .ok (.int (if n.negative then -value else value))
  | fraction, exponent =>
    let fraction := fraction.getD []
    .ok (.float (Number.decimalFloat n.negative (n.whole ++ fraction)
      (exponent.getD 0 - (fraction.length : Int))))

def words : List (List Char × Json) :=
  [("null".toList, null), ("true".toList, bool true), ("false".toList, bool false),
    ("NaN".toList, float (0 / 0)), ("Infinity".toList, float (1 / 0)),
    ("-Infinity".toList, float (-1 / 0))]

def takeWord (s : Input) : Option (Json × Input) :=
  words.findSome? fun (word, v) =>
    if word.isPrefixOf s.rest then some (v, ⟨s.rest.drop word.length, s.place + word.length⟩)
    else none

def scalar (s : Input) : Result Json :=
  match takeWord s with
  | some r => .ok r
  | none =>
    match takeNumber s.rest with
    | none => fail .value s.place
    | some (n, rest) =>
      match n.value with
      | .error digits => .error (.tooManyDigits digits s.place)
      | .ok v => .ok (number v, ⟨rest, s.place + (s.rest.length - rest.length)⟩)

mutual

/-- One value at the front of the input. The fuel bounds the number of calls; the length of the
text is enough of it. -/
def value (fuel : Nat) (s : Input) : Result Json :=
  match fuel with
  | 0 => fail .value s.place
  | fuel + 1 =>
    match s with
    | ⟨'\x22' :: rest, p⟩ =>
      match stringBody p [] ⟨rest, p + 1⟩ with
      | .ok (text, s) => .ok (string text, s)
      | .error e => .error e
    | ⟨'[' :: rest, p⟩ =>
      match skipSpace ⟨rest, p + 1⟩ with
      | ⟨']' :: rest, p⟩ => .ok (array [], ⟨rest, p + 1⟩)
      | s => items fuel [] s
    | ⟨'\x7b' :: rest, p⟩ =>
      match skipSpace ⟨rest, p + 1⟩ with
      | ⟨'\x7d' :: rest, p⟩ => .ok (object [], ⟨rest, p + 1⟩)
      | s => members fuel [] s
    | s => scalar s

/-- The items of an array from one of them on; `read` holds the earlier ones in reverse. -/
def items (fuel : Nat) (read : List Json) (s : Input) : Result Json :=
  match fuel with
  | 0 => fail .value s.place
  | fuel + 1 =>
    match value fuel s with
    | .error e => .error e
    | .ok (v, s) =>
      match skipSpace s with
      | ⟨']' :: rest, p⟩ => .ok (array (v :: read).reverse, ⟨rest, p + 1⟩)
      | ⟨',' :: rest, p⟩ => items fuel (v :: read) (skipSpace ⟨rest, p + 1⟩)
      | s => fail .comma s.place

def members (fuel : Nat) (read : List (String × Json)) (s : Input) : Result Json :=
  match fuel with
  | 0 => fail .value s.place
  | fuel + 1 =>
    match s with
    | ⟨'\x22' :: rest, p⟩ =>
      match stringBody p [] ⟨rest, p + 1⟩ with
      | .error e => .error e
      | .ok (key, s) =>
        match skipSpace s with
        | ⟨':' :: rest, p⟩ =>
          match value fuel (skipSpace ⟨rest, p + 1⟩) with
          | .error e => .error e
          | .ok (v, s) =>
            let read := insertMember key v read
            match skipSpace s with
            | ⟨'\x7d' :: rest, p⟩ => .ok (object read, ⟨rest, p + 1⟩)
            | ⟨',' :: rest, p⟩ => members fuel read (skipSpace ⟨rest, p + 1⟩)
            | s => fail .comma s.place
        | s => fail .colon s.place
    | s => fail .propertyName s.place

end

end Parser

def parse (text : List Char) : Except ParseError Json :=
  match text with
  | '\ufeff' :: _ => .error (.malformed .byteOrderMark 0)
  | text =>
    match Parser.value (2 * text.length + 2) (Parser.skipSpace ⟨text, 0⟩) with
    | .error e => .error e
    | .ok (v, s) =>
      match Parser.skipSpace s with
      | ⟨[], _⟩ => .ok v
      | ⟨_ :: _, p⟩ => .error (.malformed .extraData p)

/-! ## Nesting -/

/-- What has been read of a text, as far as its brackets go. -/
structure Nesting where
  /-- Whether the last quote is still open. -/
  quoted : Bool := false
  /-- Whether a backslash stands in front, inside of quotes. -/
  escaped : Bool := false
  depth : Nat := 0
  deepest : Nat := 0

def Nesting.step (n : Nesting) (c : Char) : Nesting :=
  if n.escaped then { n with escaped := false }
  else if n.quoted then { n with quoted := c ≠ '\x22', escaped := c = '\x5c' }
  else if c = '\x22' then { n with quoted := true }
  else if c = '[' || c = '\x7b' then
    { n with depth := n.depth + 1, deepest := max n.deepest (n.depth + 1) }
  else if c = ']' || c = '\x7d' then { n with depth := n.depth - 1 }
  else n

/-- How deep the brackets of a text are nested, up to where reading it stops. -/
def depth (text : List Char) : Nat :=
  let read := match parse text with
    | .ok _ => text
    | .error e => text.take e.place
  (read.foldl Nesting.step {}).deepest

end TacticalDesign.Json
