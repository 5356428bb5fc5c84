/-!
# Tokens of module source

Names, numbers, strings, operators, and the marks of lines and indentation.
-/

namespace TacticalDesign.Source

/-- A string literal: what its letters before the quote say, and the text between the quotes as
written. -/
structure StringToken where
  isBytes : Bool
  isRaw : Bool
  isFormatted : Bool
  /-- Whether the literal carries a small `u`. -/
  isMarked : Bool
  body : List Char
  deriving DecidableEq, Repr

inductive Token where
  | keyword (text : String)
  /-- A name as written; it stands for its normal form. -/
  | name (text : String)
  | number (text : List Char)
  | string (literal : StringToken)
  | op (text : String)
  | lineEnd
  | indent
  | dedent
  deriving DecidableEq, Repr

def reservedWords : List String :=
  ["False", "None", "True", "and", "as", "assert", "async", "await", "break", "class", "continue",
    "def", "del", "elif", "else", "except", "finally", "for", "from", "global", "if", "import",
    "in", "is", "lambda", "nonlocal", "not", "or", "pass", "raise", "return", "try", "while",
    "with", "yield"]

/-- Operators and delimiters, longer ones before their beginnings. -/
def operators : List String :=
  ["**=", "//=", ">>=", "<<=", "...", "!=", "%=", "&=", "**", "*=", "+=", "-=", "->", "//", "/=",
    ":=", "<<", "<=", "==", ">=", ">>", "@=", "^=", "|=", "%", "&", "(", ")", "*", "+", ",", "-",
    ".", "/", ":", ";", "<", "=", ">", "@", "[", "]", "^", "\x7b", "|", "\x7d", "~"]

end TacticalDesign.Source
