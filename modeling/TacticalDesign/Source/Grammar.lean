import TacticalDesign.Source.Expr
import TacticalDesign.Source.Interpolation
import TacticalDesign.Source.Lexer
import TacticalDesign.Source.Parser
/-!
# The grammar of expressions

Every production takes the productions that it may come back to as a `Grammar`. Tying them
together needs one unit of fuel for each time an expression goes inside of another one.
-/

namespace TacticalDesign.Source

/-- The productions that expressions come back to. -/
structure Grammar where
  expression : Parser Expr
  disjunction : Parser Expr
  inversion : Parser Expr
  bitOr : Parser Expr
  factor : Parser Expr
  primary : Parser Expr

namespace Grammar

open TacticalDesign.Source.Parser

variable (g : Grammar)

/-! ## Several expressions -/

def starExpression : Parser Expr := do
  if ← takeOp "*" then return .starred (← g.bitOr) else g.expression

def starExpressions : Parser Expr := do
  return oneOrMore id .tuple (← commaSeparated g.starExpression)

def namedExpression : Parser Expr := do
  if ← atNameAnd ":=" then
    let target ← name
    op ":="
    return .named (.name target) (← g.expression)
  else g.expression

def starNamedExpression : Parser Expr := do
  if ← takeOp "*" then return .starred (← g.bitOr) else g.namedExpression

def yieldExpression : Parser Expr := do
  keyword "yield"
  if ← takeKeyword "from" then return .yieldFrom (← g.expression)
  return .yield (← optionally g.starExpressions)

def yieldOrExpressions : Parser Expr := do
  if ← atKeyword "yield" then g.yieldExpression else g.starExpressions

/-! ## Literals -/

def number : Parser Expr := fun ts =>
  match ts with
  | .number text :: rest => (Literal.ofNumber text).map fun v => (.literal v, rest)
  | _ => none

def fieldValue (source : List Char) : Option Expr := do
  let ts ← tokens ('(' :: source ++ [')'])
  let (e, _) ← g.starExpressions ts
  return e

mutual

def piece (isRaw : Bool) : RawPiece → Option Piece
  | .text body => (Literal.decodeText isRaw body).map .text
  | .label text => some (.text (String.ofList text))
  | .field source conversion format => do
    return .field (← g.fieldValue source) conversion (← formatPieces isRaw format)

def pieces (isRaw : Bool) : List RawPiece → Option (List Piece)
  | [] => some []
  | p :: rest => do
    return (← piece isRaw p) :: (← pieces isRaw rest)

def formatPieces (isRaw : Bool) : Option (List RawPiece) → Option (Option (List Piece))
  | none => some none
  | some ps => do
    return some (← pieces isRaw ps)

end

/-- Joins texts that stand next to each other and drops empty ones. -/
def mergeTexts : List Piece → List Piece
  | [] => []
  | .text s :: rest =>
    match mergeTexts rest with
    | .text t :: more => .text (s ++ t) :: more
    | more => if s.isEmpty then more else .text s :: more
  | p :: rest => p :: mergeTexts rest

mutual

def mergeFormat : Piece → Piece
  | .text s => .text s
  | .field value conversion none => .field value conversion none
  | .field value conversion (some format) =>
    .field value conversion (some (mergeTexts (mergeFormats format)))

def mergeFormats : List Piece → List Piece
  | [] => []
  | p :: rest => mergeFormat p :: mergeFormats rest

end

def stringPieces (s : StringToken) : Option (List Piece) :=
  if s.isFormatted then do
    return mergeFormats (← g.pieces s.isRaw (← rawPieces s.isRaw s.body))
  else (Literal.decodeText s.isRaw s.body).map fun text => [.text text]

def pieceText : Piece → String
  | .text s => s
  | _ => ""

/-- The value of strings that stand next to each other: all of bytes or all of text. -/
def stringsValue (strings : List StringToken) : Option Expr := do
  if strings.all (·.isBytes) then
    let parts ← strings.mapM fun s => Literal.decodeBytes s.isRaw s.body
    return .literal (.bytes parts.flatten)
  guard (strings.all (!·.isBytes))
  let parts := (← strings.mapM g.stringPieces).flatten
  if strings.any (·.isFormatted) then return .interpolated (mergeTexts parts)
  return .literal (.text (String.join (parts.map pieceText)) (strings.head?.any (·.isMarked)))

def stringToken : Parser StringToken := fun ts =>
  match ts with
  | .string s :: rest => some (s, rest)
  | _ => none

def strings : Parser Expr := accept (many1 stringToken) g.stringsValue

/-! ## Operators -/

def oneOf {α : Type} (ops : List (String × α)) : Parser α := fun ts =>
  match ts with
  | .op text :: rest => (ops.lookup text).map fun a => (a, rest)
  | _ => none

def leftGrouped (ops : List (String × BinaryOp)) (operand : Parser Expr) : Parser Expr := do
  let first ← operand
  let rest ← many (do let o ← oneOf ops; return (o, ← operand))
  return rest.foldl (fun left (o, right) => .binary o left right) first

/-! ## Parameters -/

inductive ParameterItem where
  | plain (name : String) (typeExpr fallback : Option Expr)
  | slash
  | star (named : Option (String × Option Expr))
  | doubleStar (name : String) (typeExpr : Option Expr)

def typeMark (isLambda : Bool) (p : Parser Expr) : Parser (Option Expr) := do
  if isLambda then return none
  if ← takeOp ":" then return some (← p)
  return none

def parameterItem (isLambda : Bool) : Parser ParameterItem := do
  if ← takeOp "/" then return .slash
  if ← takeOp "**" then
    let id ← name
    return .doubleStar id (← typeMark isLambda g.expression)
  if ← takeOp "*" then
    match ← optionally name with
    | none => return .star none
    | some id => return .star (some (id, ← typeMark isLambda g.starExpression))
  let id ← name
  let a ← typeMark isLambda g.expression
  if ← takeOp "=" then return .plain id a (some (← g.expression))
  return .plain id a none

def ParameterItem.isPlain : ParameterItem → Bool
  | plain _ _ _ => true
  | _ => false

def ParameterItem.parameter? (kind : ParameterKind) : ParameterItem → Option Parameter
  | plain name typeExpr fallback => some (.mk kind name typeExpr fallback)
  | _ => none

/-- Whether no parameter without a default follows one that has one. -/
def defaultsAtEnd (items : List ParameterItem) : Bool :=
  let hasDefault : ParameterItem → Bool
    | .plain _ _ fallback => fallback.isSome
    | _ => false
  (items.dropWhile fun i => !hasDefault i).all hasDefault

def keywordParameters (items : List ParameterItem) : Option (List Parameter) :=
  let plains := items.takeWhile (·.isPlain)
  let parameters := plains.filterMap (·.parameter? .keywordOnly)
  match items.drop plains.length with
  | [] => some parameters
  | [.doubleStar name typeExpr] =>
    some (parameters ++ [.mk .variadicKeyword name typeExpr none])
  | _ => none

/-- Sets items in their kinds. A slash follows at least one parameter, a star without a name is
followed by one, and what spreads keywords comes last. -/
def arrange (items : List ParameterItem) (trailing : Bool) : Option (List Parameter) := do
  let first := items.takeWhile (·.isPlain)
  let rest := items.drop first.length
  let (before, after, rest) ← match rest with
    | .slash :: rest =>
      if first.isEmpty then none
      else some (first, rest.takeWhile (·.isPlain), rest.dropWhile (·.isPlain))
    | _ => some ([], first, rest)
  guard (defaultsAtEnd (before ++ after))
  let last ← match rest with
    | .star (some (name, typeExpr)) :: rest =>
      (keywordParameters rest).map (.mk .variadic name typeExpr none :: ·)
    | .star none :: rest =>
      if rest.head?.any (·.isPlain) then keywordParameters rest else none
    | rest => keywordParameters rest
  guard !(trailing && items.isEmpty)
  return before.filterMap (·.parameter? .positionalOnly) ++
    after.filterMap (·.parameter? .positional) ++ last

def parameters (isLambda : Bool) (closing : String) : Parser (List Parameter) := do
  if ← atOp closing then return []
  accept (commaSeparated (g.parameterItem isLambda)) fun (items, trailing) =>
    arrange items trailing

def lambda : Parser Expr := do
  keyword "lambda"
  let ps ← g.parameters true ":"
  op ":"
  return .lambda ps (← g.expression)

/-! ## Arguments -/

inductive Argument where
  | positional (value : Expr)
  | starred (value : Expr)
  | generator (value : Expr)
  | keyword (name : String) (value : Expr)
  | spread (value : Expr)

/-- Sorts arguments: a positional one stands before all keywords, a starred one before all
mappings that are spread, and a generator alone. -/
def sortArguments (sawKeyword sawSpread : Bool) :
    List Argument → Option (List Expr × List Keyword)
  | [] => some ([], [])
  | .positional e :: rest =>
    if sawKeyword || sawSpread then none
    else (sortArguments false false rest).map fun (es, ks) => (e :: es, ks)
  | .starred e :: rest =>
    if sawSpread then none
    else (sortArguments sawKeyword false rest).map fun (es, ks) => (.starred e :: es, ks)
  | .generator _ :: _ => none
  | .keyword name e :: rest =>
    (sortArguments true sawSpread rest).map fun (es, ks) => (es, .mk (some name) e :: ks)
  | .spread e :: rest =>
    (sortArguments sawKeyword true rest).map fun (es, ks) => (es, .mk none e :: ks)

/-! ## Targets and comprehensions -/

/-- A target of an assignment, with at most one star. -/
def starTarget : Parser Expr := do
  let isStarred ← takeOp "*"
  let e ← g.primary
  if e.isTarget && !e.isStarred then return if isStarred then .starred e else e
  failure

def starTargets : Parser Expr := do
  return oneOrMore id .tuple (← commaSeparated g.starTarget)

def clause : Parser Clause := do
  let isAsync ← takeKeyword "async"
  keyword "for"
  let target ← g.starTargets
  keyword "in"
  let source ← g.disjunction
  return .mk isAsync target source (← many (do keyword "if"; g.disjunction))

def clauses : Parser (List Clause) := many1 g.clause

/-- Comprehension clauses start here. -/
def atClause : Parser Bool := do
  if ← atKeyword "for" then return true
  atKeyword "async"

/-! ## Atoms and what follows them -/

def argument : Parser Argument := do
  if ← takeOp "*" then return .starred (← g.expression)
  if ← takeOp "**" then return .spread (← g.expression)
  if ← atNameAnd "=" then
    let id ← name
    op "="
    return .keyword id (← g.expression)
  let e ← g.namedExpression
  if ← atClause then return .generator (.comprehension .generator e (← g.clauses))
  return .positional e

def arguments (allowsGenerator : Bool) : Parser (List Expr × List Keyword) := do
  if ← atOp ")" then return ([], [])
  accept (commaSeparated (g.argument)) fun (items, trailing) =>
    match items with
    | [.generator e] => if allowsGenerator && !trailing then some ([e], []) else none
    | items => sortArguments false false items

def slice : Parser Expr := do
  let bound : Parser (Option Expr) := do
    if (← atOp ":") || (← atOp ",") || (← atOp "]") then return none
    return some (← g.expression)
  let rest (lower : Option Expr) : Parser Expr := do
    op ":"
    let upper ← bound
    if ← takeOp ":" then return .slice lower upper (← bound)
    return .slice lower upper none
  if ← atOp ":" then rest none
  else if ← atNameAnd ":=" then g.namedExpression
  else
    let e ← g.expression
    if ← atOp ":" then rest (some e) else return e

/-- The index of a subscript; a starred one makes a tuple. -/
def slices : Parser Expr := do
  let item : Parser Expr := do
    if ← takeOp "*" then return .starred (← g.expression) else g.slice
  let items ← commaSeparated item
  match items with
  | ([e], false) => return if e.isStarred then .tuple [e] else e
  | (es, _) => return .tuple es

/-- The inside of parentheses: an empty tuple, a group, a generator or a tuple. -/
def parenthesized : Parser Expr := do
  if ← atOp ")" then return .tuple []
  if ← atKeyword "yield" then return ← g.yieldExpression
  let (items, trailing) ← commaSeparated g.starNamedExpression
  match items, trailing with
  | [e], false =>
    if e.isStarred then failure
    if ← atClause then return .comprehension .generator e (← g.clauses)
    return e
  | es, _ => return .tuple es

def bracketed : Parser Expr := do
  if ← atOp "]" then return .list []
  let (items, trailing) ← commaSeparated g.starNamedExpression
  match items, trailing with
  | [e], false =>
    if !e.isStarred then
      if ← atClause then return .comprehension .list e (← g.clauses)
    return .list [e]
  | es, _ => return .list es

def entry : Parser Entry := do
  if ← takeOp "**" then return .mk none (← g.bitOr)
  let key ← g.expression
  op ":"
  return .mk (some key) (← g.expression)

def dictFrom (key : Expr) : Parser Expr := do
  op ":"
  let value ← g.expression
  if ← atClause then return .dictComprehension key value (← g.clauses)
  let rest ← many (do op ","; g.entry)
  let _ ← takeOp ","
  return .dict (.mk (some key) value :: rest)

def bracesInside : Parser Expr := do
  if ← atOp "\x7d" then return .dict []
  if ← atOp "**" then return .dict (← commaSeparated g.entry).1
  let first ← g.starNamedExpression
  if ← atOp ":" then
    match first with
    | .starred _ => failure
    | first => g.dictFrom first
  else if ← atClause then
    if first.isStarred then failure
    return .comprehension .set first (← g.clauses)
  else
    let rest ← many (do op ","; g.starNamedExpression)
    let _ ← takeOp ","
    return .set (first :: rest)

def constants : List (String × Literal) :=
  [("None", .none), ("True", .bool true), ("False", .bool false)]

def constant : Parser Expr := fun ts =>
  match ts with
  | .keyword word :: rest => (constants.lookup word).map fun v => (.literal v, rest)
  | .op "..." :: rest => some (.literal .ellipsis, rest)
  | _ => none

def atom : Parser Expr :=
  (Expr.name <$> name) <|> number <|> g.strings <|> constant <|>
    between "(" g.parenthesized ")" <|>
    between "[" g.bracketed "]" <|>
    between "\x7b" g.bracesInside "\x7d"

/-- What turns a value into a part of it or into what it returns. -/
def trailer : Parser (Expr → Expr) := do
  if ← takeOp "." then
    let id ← name
    return (.member · id)
  else if ← takeOp "(" then
    let (es, ks) ← g.arguments true
    op ")"
    return (.call · es ks)
  else
    op "["
    let index ← g.slices
    op "]"
    return (.subscript · index)

def primaryRule : Parser Expr := do
  let e ← g.atom
  return (← many g.trailer).foldl (fun e f => f e) e

/-! ## The levels of operators -/

def awaitRule : Parser Expr := do
  if ← takeKeyword "await" then return .await (← g.primaryRule) else g.primaryRule

def powerRule : Parser Expr := do
  let base ← g.awaitRule
  if ← takeOp "**" then return .binary .pow base (← g.factor) else return base

def factorRule : Parser Expr := do
  if ← takeOp "+" then return .unary .plus (← g.factor)
  if ← takeOp "-" then return .unary .minus (← g.factor)
  if ← takeOp "~" then return .unary .invert (← g.factor)
  g.powerRule

def productRule : Parser Expr :=
  leftGrouped [("*", .mul), ("/", .div), ("//", .floorDiv), ("%", .mod), ("@", .matMul)]
    g.factorRule

def sumRule : Parser Expr := leftGrouped [("+", .add), ("-", .sub)] g.productRule

def shiftRule : Parser Expr := leftGrouped [("<<", .shiftLeft), (">>", .shiftRight)] g.sumRule

def bitOrRule : Parser Expr :=
  leftGrouped [("|", .bitOr)]
    (leftGrouped [("^", .bitXor)] (leftGrouped [("&", .bitAnd)] g.shiftRule))

def compareOp : Parser CompareOp :=
  oneOf [("==", .eq), ("!=", .notEq), ("<", .lt), ("<=", .le), (">", .gt), (">=", .ge)] <|>
    (do keyword "in"; return .member) <|>
    (do keyword "not"; keyword "in"; return .notMember) <|>
    (do keyword "is"; return if ← takeKeyword "not" then .notSame else .same)

def comparisonRule : Parser Expr := do
  let left ← g.bitOrRule
  let rest ← many do
    let o ← compareOp
    return Comparison.mk o (← g.bitOrRule)
  return if rest.isEmpty then left else .comparison left rest

def inversionRule : Parser Expr := do
  if ← takeKeyword "not" then return .unary .negation (← g.inversion)
  g.comparisonRule

def worded (o : BooleanOp) (word : String) (operand : Parser Expr) : Parser Expr := do
  let first ← operand
  let rest ← many (do keyword word; operand)
  return if rest.isEmpty then first else .boolean o (first :: rest)

def disjunctionRule : Parser Expr :=
  worded .either "or" (worded .both "and" g.inversionRule)

def expressionRule : Parser Expr := do
  if ← atKeyword "lambda" then return ← g.lambda
  let body ← g.disjunctionRule
  (do keyword "if"
      let test ← g.disjunctionRule
      keyword "else"
      return .conditional body test (← g.expression)) <|> return body

/-! ## All productions together -/

/-- The productions that come back to those of `g`. -/
def extend : Grammar where
  expression := g.expressionRule
  disjunction := g.disjunctionRule
  inversion := g.inversionRule
  bitOr := g.bitOrRule
  factor := g.factorRule
  primary := g.primaryRule

def ofDepth : Nat → Grammar
  | 0 => ⟨failure, failure, failure, failure, failure, failure⟩
  | n + 1 => (ofDepth n).extend

end Grammar

end TacticalDesign.Source
