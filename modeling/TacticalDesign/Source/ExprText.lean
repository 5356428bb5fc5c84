import TacticalDesign.Source.Expr
import TacticalDesign.Source.StringText
/-!
# The text of an expression

Expressions are written in one canonical form: single blanks around operators, parentheses only
where the tree needs them.
-/

namespace TacticalDesign.Source

inductive TextError where
  | backslashInField
  | tooManyDigits
  deriving DecidableEq, Repr

def TextError.message : TextError → String
  | backslashInField => "Unable to avoid backslash in f-string expression part"
  | tooManyDigits =>
    "Exceeds the limit (4300 digits) for integer string conversion; use " ++
      "sys.set_int_max_str_digits() to increase the limit"

/-- How tightly a place binds; an expression that binds less gets parentheses. -/
abbrev Precedence := Nat

namespace Precedence

def named : Precedence := 1
def tuple : Precedence := 2
def yielding : Precedence := 3
def test : Precedence := 4
def either : Precedence := 5
def both : Precedence := 6
def negation : Precedence := 7
def comparison : Precedence := 8
def bitOr : Precedence := 9
def bitXor : Precedence := 10
def bitAnd : Precedence := 11
def shift : Precedence := 12
def sum : Precedence := 13
def product : Precedence := 14
def factor : Precedence := 15
def power : Precedence := 16
def awaiting : Precedence := 17
def atom : Precedence := 18

end Precedence

namespace UnaryOp

def text : UnaryOp → String
  | invert => "~"
  | negation => "not "
  | plus => "+"
  | minus => "-"

def level : UnaryOp → Precedence
  | negation => Precedence.negation
  | _ => Precedence.factor

end UnaryOp

namespace BinaryOp

def text : BinaryOp → String
  | add => "+"
  | sub => "-"
  | mul => "*"
  | matMul => "@"
  | div => "/"
  | floorDiv => "//"
  | mod => "%"
  | pow => "**"
  | shiftLeft => "<<"
  | shiftRight => ">>"
  | bitOr => "|"
  | bitXor => "^"
  | bitAnd => "&"

def level : BinaryOp → Precedence
  | add => Precedence.sum
  | sub => Precedence.sum
  | mul => Precedence.product
  | matMul => Precedence.product
  | div => Precedence.product
  | floorDiv => Precedence.product
  | mod => Precedence.product
  | pow => Precedence.power
  | shiftLeft => Precedence.shift
  | shiftRight => Precedence.shift
  | bitOr => Precedence.bitOr
  | bitXor => Precedence.bitXor
  | bitAnd => Precedence.bitAnd

/-- A power groups to the right, all else to the left. -/
def leftLevel (op : BinaryOp) : Precedence := if op = pow then op.level + 1 else op.level

def rightLevel (op : BinaryOp) : Precedence := if op = pow then op.level else op.level + 1

end BinaryOp

namespace BooleanOp

def text : BooleanOp → String
  | both => " and "
  | either => " or "

def level : BooleanOp → Precedence
  | both => Precedence.both
  | either => Precedence.either

end BooleanOp

def CompareOp.text : CompareOp → String
  | eq => " == "
  | notEq => " != "
  | lt => " < "
  | le => " <= "
  | gt => " > "
  | ge => " >= "
  | same => " is "
  | notSame => " is not "
  | member => " in "
  | notMember => " not in "

abbrev Written := Except TextError String

/-! ## Literals -/

/-- An infinity is written as a number that is too large. -/
def finiteText (x : Float) : String := if x.isInf then "1e309" else Number.floatText x

/-- The text of an imaginary number has no decimal point unless it needs one. -/
def imaginaryText (x : Float) : String :=
  let text := (finiteText x).toList
  let text := if text.drop (text.length - 2) = ['.', '0'] then text.dropLast.dropLast else text
  String.ofList (text ++ ['j'])

/-- The text of a literal; inside of a field a text avoids escapes. -/
def Literal.write (inField : Bool) : Literal → Written
  | none => .ok "None"
  | bool b => .ok (if b then "True" else "False")
  | ellipsis => .ok "..."
  | int n =>
    let text := Number.natText n
    if Number.digitLimit < text.length then .error .tooManyDigits else .ok text
  | float x => .ok (finiteText x)
  | imaginary x => .ok (imaginaryText x)
  | text s marked =>
    .ok ((if marked then "u" else "") ++ if inField then StringText.plain s else Text.quoted s)
  | bytes bs => .ok (Text.quotedBytes bs)

/-! ## Expressions -/

def parenthesizeIf (condition : Bool) (text : String) : String :=
  if condition then "(" ++ text ++ ")" else text

def commaText (texts : List String) : String := ", ".intercalate texts

def tupleText : List String → String
  | [text] => text ++ ","
  | texts => commaText texts

def braced (text : String) : String := "\x7b" ++ text ++ "\x7d"

/-- A text inside of an interpolated string: braces are doubled. -/
def doubleBraces (text : List Char) : List Char :=
  text.flatMap fun c => if c = '\x7b' || c = '\x7d' then [c, c] else [c]

def parametersText (parameters : List (ParameterKind × String)) : String :=
  let texts (kind : ParameterKind) := (parameters.filter (·.1 = kind)).map (·.2)
  let positionalOnly := texts .positionalOnly
  let keywordOnly := texts .keywordOnly
  let variadic := texts .variadic
  commaText (positionalOnly ++ (if positionalOnly.isEmpty then [] else ["/"]) ++
    texts .positional ++ variadic ++
    (if variadic.isEmpty && !keywordOnly.isEmpty then ["*"] else []) ++
    keywordOnly ++ texts .variadicKeyword)

mutual

/-- The text of an expression at a place of a level. -/
def Expr.write (inField : Bool) (level : Precedence) : Expr → Written
  | .name id => .ok id
  | .literal value => value.write inField
  | .interpolated pieces => do
    let parts ← writePieces pieces
    if inField then
      return "f" ++ StringText.plain (String.ofList (parts.flatMap (·.1)))
    return "f" ++ StringText.joined parts
  | .member value name => do
    let text ← value.write inField Precedence.atom
    let gap := match value with
      | .literal v => if v.isWhole then " " else ""
      | _ => ""
    return text ++ gap ++ "." ++ name
  | .subscript value (.tuple (item :: items)) => do
    let text ← value.write inField Precedence.atom
    let item ← item.write inField Precedence.test
    let items ← writeItems inField items
    return text ++ "[" ++ tupleText (item :: items) ++ "]"
  | .subscript value index => do
    let text ← value.write inField Precedence.atom
    return text ++ "[" ++ (← index.write inField Precedence.test) ++ "]"
  | .slice lower upper step => do
    let lower ← writeOptional inField "" Precedence.test lower
    let upper ← writeOptional inField "" Precedence.test upper
    let step ← writeOptional inField ":" Precedence.test step
    return lower ++ ":" ++ upper ++ step
  | .call function arguments keywords => do
    let function ← function.write inField Precedence.atom
    let arguments ← writeItems inField arguments
    let keywords ← writeKeywords inField keywords
    return function ++ "(" ++ commaText (arguments ++ keywords) ++ ")"
  | .starred value => do
    return "*" ++ (← value.write inField Precedence.bitOr)
  | .unary op operand => do
    let operand ← operand.write inField op.level
    return parenthesizeIf (op.level < level) (op.text ++ operand)
  | .binary op left right => do
    let left ← left.write inField op.leftLevel
    let right ← right.write inField op.rightLevel
    return parenthesizeIf (op.level < level) (left ++ " " ++ op.text ++ " " ++ right)
  | .boolean op values => do
    let values ← writeRising inField (op.level + 1) values
    return parenthesizeIf (op.level < level) (op.text.intercalate values)
  | .comparison left rest => do
    let left ← left.write inField (Precedence.comparison + 1)
    let rest ← writeComparisons inField rest
    return parenthesizeIf (Precedence.comparison < level) (left ++ rest)
  | .conditional body test orElse => do
    let body ← body.write inField (Precedence.test + 1)
    let test ← test.write inField (Precedence.test + 1)
    let orElse ← orElse.write inField Precedence.test
    return parenthesizeIf (Precedence.test < level) (body ++ " if " ++ test ++ " else " ++ orElse)
  | .lambda parameters body => do
    let texts ← writeParameters inField parameters
    let parameters := if texts.isEmpty then "" else " " ++ parametersText texts
    let body ← body.write inField Precedence.test
    return parenthesizeIf (Precedence.test < level) ("lambda" ++ parameters ++ ": " ++ body)
  | .tuple items => do
    let texts ← writeItems inField items
    return parenthesizeIf (texts.isEmpty || Precedence.tuple < level) (tupleText texts)
  | .list items => do
    return "[" ++ commaText (← writeItems inField items) ++ "]"
  | .set items => do
    let texts ← writeItems inField items
    return braced (if texts.isEmpty then "*()" else commaText texts)
  | .dict entries => do
    return braced (commaText (← writeEntries inField entries))
  | .comprehension kind element clauses => do
    let text := (← element.write inField Precedence.test) ++ (← writeClauses inField clauses)
    return match kind with
      | .list => "[" ++ text ++ "]"
      | .set => braced text
      | .generator => "(" ++ text ++ ")"
  | .dictComprehension key value clauses => do
    let key ← key.write inField Precedence.test
    let value ← value.write inField Precedence.test
    return braced (key ++ ": " ++ value ++ (← writeClauses inField clauses))
  | .await value => do
    let value ← value.write inField Precedence.atom
    return parenthesizeIf (Precedence.awaiting < level) ("await " ++ value)
  | .yield value => do
    let value ← writeOptional inField " " Precedence.atom value
    return parenthesizeIf (Precedence.yielding < level) ("yield" ++ value)
  | .yieldFrom value => do
    let value ← value.write inField Precedence.atom
    return parenthesizeIf (Precedence.yielding < level) ("yield from " ++ value)
  | .named target value => do
    let target ← target.write inField Precedence.atom
    let value ← value.write inField Precedence.atom
    return parenthesizeIf (Precedence.named < level) (target ++ " := " ++ value)

def writeItems (inField : Bool) : List Expr → Except TextError (List String)
  | [] => .ok []
  | e :: rest => do
    let text ← e.write inField Precedence.test
    return text :: (← writeItems inField rest)

/-- Operands of which every one binds tighter than the one before it. -/
def writeRising (inField : Bool) (level : Precedence) : List Expr → Except TextError (List String)
  | [] => .ok []
  | e :: rest => do
    let text ← e.write inField (min Precedence.atom level)
    return text :: (← writeRising inField (level + 1) rest)

def writeOptional (inField : Bool) (lead : String) (level : Precedence) : Option Expr → Written
  | none => .ok ""
  | some e => do
    return lead ++ (← e.write inField level)

/-- The parts of an interpolated string, and which of them are texts. -/
def writePieces : List Piece → Except TextError (List (List Char × Bool))
  | [] => .ok []
  | .text value :: rest => do
    return (doubleBraces value.toList, true) :: (← writePieces rest)
  | .field value conversion format :: rest => do
    let text ← value.write true Precedence.either
    if text.toList.contains Text.backslash then throw .backslashInField
    let gap := if text.toList.head? = some '\x7b' then " " else ""
    let conversion := match conversion with
      | none => ""
      | some c => "!" ++ String.singleton c
    let format ← writeFormat format
    return ((braced (gap ++ text ++ conversion ++ format)).toList, false) :: (← writePieces rest)

def writeFormat : Option (List Piece) → Written
  | none => .ok ""
  | some pieces => do
    return ":" ++ String.ofList ((← writePieces pieces).flatMap (·.1))

def writeKeywords (inField : Bool) : List Keyword → Except TextError (List String)
  | [] => .ok []
  | .mk name value :: rest => do
    let lead := match name with
      | none => "**"
      | some name => name ++ "="
    let text := lead ++ (← value.write inField Precedence.test)
    return text :: (← writeKeywords inField rest)

def writeComparisons (inField : Bool) : List Comparison → Written
  | [] => .ok ""
  | .mk op right :: rest => do
    let text ← right.write inField (Precedence.comparison + 1)
    return op.text ++ text ++ (← writeComparisons inField rest)

def writeEntries (inField : Bool) : List Entry → Except TextError (List String)
  | [] => .ok []
  | .mk none value :: rest => do
    let text := "**" ++ (← value.write inField Precedence.bitOr)
    return text :: (← writeEntries inField rest)
  | .mk (some key) value :: rest => do
    let key ← key.write inField Precedence.test
    let text := key ++ ": " ++ (← value.write inField Precedence.test)
    return text :: (← writeEntries inField rest)

def writeClauses (inField : Bool) : List Clause → Written
  | [] => .ok ""
  | .mk isAsync target source conditions :: rest => do
    let target ← target.write inField Precedence.tuple
    let source ← source.write inField Precedence.either
    let conditions ← writeConditions inField conditions
    let lead := if isAsync then " async for " else " for "
    return lead ++ target ++ " in " ++ source ++ conditions ++ (← writeClauses inField rest)

def writeConditions (inField : Bool) : List Expr → Written
  | [] => .ok ""
  | e :: rest => do
    let text ← e.write inField Precedence.either
    return " if " ++ text ++ (← writeConditions inField rest)

def writeParameters (inField : Bool) :
    List Parameter → Except TextError (List (ParameterKind × String))
  | [] => .ok []
  | .mk kind name typeExpr fallback :: rest => do
    let typeExpr ← writeOptional inField ": " Precedence.test typeExpr
    let fallback ← writeOptional inField "=" Precedence.test fallback
    let lead := match kind with
      | .variadic => "*"
      | .variadicKeyword => "**"
      | _ => ""
    return (kind, lead ++ name ++ typeExpr ++ fallback) :: (← writeParameters inField rest)

end

def Expr.text (e : Expr) : Written := e.write false Precedence.test

def signatureText (parameters : List Parameter) : Written := do
  return parametersText (← writeParameters false parameters)

end TacticalDesign.Source
