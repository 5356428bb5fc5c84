import TacticalDesign.Text.CharClass
/-!
# Quoted texts

A quoted text stands between single quotes, or between double quotes when it holds a single quote
and no double quote. The quote, the backslash and everything that does not print is escaped.
-/

namespace TacticalDesign.Text

def singleQuote : Char := '\x27'
def doubleQuote : Char := '\x22'
def backslash : Char := '\x5c'

def hexDigitChar (n : Nat) : Char :=
  if n < 10 then Char.ofNat (48 + n) else Char.ofNat (87 + n)

def hexText (width n : Nat) : List Char :=
  ((List.range width).map fun i => hexDigitChar (n / Nat.pow 16 i % 16)).reverse

/-- The quote that needs the fewest escapes; the single one where both would do. -/
def quoteFor (s : List Char) : Char :=
  if s.contains singleQuote && !s.contains doubleQuote then doubleQuote else singleQuote

def escapeChar (quote c : Char) : List Char :=
  if c = quote || c = backslash then [backslash, c]
  else if c = '\n' then [backslash, 'n']
  else if c = '\r' then [backslash, 'r']
  else if c = '\t' then [backslash, 't']
  else if isPrintable c then [c]
  else if c.toNat < 0x100 then [backslash, 'x'] ++ hexText 2 c.toNat
  else if c.toNat < 0x10000 then [backslash, 'u'] ++ hexText 4 c.toNat
  else [backslash, 'U'] ++ hexText 8 c.toNat

def quoted (s : String) : String :=
  let chars := s.toList
  let quote := quoteFor chars
  String.ofList ([quote] ++ chars.flatMap (escapeChar quote) ++ [quote])

/-- The quoted form of a byte sequence: everything beyond printing ASCII is escaped. -/
def quotedBytes (bytes : List Nat) : String :=
  let chars := bytes.map Char.ofNat
  let quote := quoteFor chars
  let body := chars.flatMap fun c =>
    if c.toNat < 128 then escapeChar quote c else [backslash, 'x'] ++ hexText 2 c.toNat
  String.ofList (['b', quote] ++ body ++ [quote])

end TacticalDesign.Text
