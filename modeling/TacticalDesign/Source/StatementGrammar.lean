import TacticalDesign.Source.PatternGrammar
import TacticalDesign.Source.Statement
/-!
# The grammar of statements

Compound statements take the parser of the blocks inside of them; tying the two together needs one
unit of fuel for each block inside of another one.
-/

namespace TacticalDesign.Source

namespace Grammar

open TacticalDesign.Source.Parser

variable (g : Grammar)

/-! ## Simple statements -/

def assignmentOps : List String :=
  ["+=", "-=", "*=", "@=", "/=", "%=", "&=", "|=", "^=", "<<=", ">>=", "**=", "//="]

def assignmentOp : Parser Unit := fun ts =>
  match ts with
  | .op text :: rest => if text ∈ assignmentOps then some ((), rest) else none
  | _ => none

/-- Whether a statement starts with a single target in parentheses that no colon follows. Such a
statement has no annotation, even where more of the target comes. -/
def startsWithGroup : Parser Bool :=
  (do let e ← between "(" g.primary ")"
      guard e.isSingleTarget
      return !(← atOp ":")) <|> return false

def assignmentOrExpression : Parser Statement := do
  let start ← get
  let first ← g.yieldOrExpressions
  if ← takeOp ":" then
    guard (first.isSingleTarget && !((g.startsWithGroup.run' start).getD false))
    let typeExpr ← g.expression
    if ← takeOp "=" then return .annotated first typeExpr (some (← g.yieldOrExpressions))
    return .annotated first typeExpr none
  match ← many (do op "="; g.yieldOrExpressions) with
  | value :: values =>
    let all := first :: value :: values
    guard (Expr.areTargets all.dropLast)
    return .assign all.dropLast (all.getLast?.getD value)
  | [] =>
    (do assignmentOp
        guard first.isSingleTarget
        let _ ← g.yieldOrExpressions
        return .other) <|> return .expression first

def dottedName : Parser Unit := do
  let _ ← name
  let _ ← many (do op "."; name)

def newName : Parser Unit := do
  let _ ← optionally (do keyword "as"; name)

def importNames : Parser Unit := do
  let _ ← dottedName
  newName
  let _ ← many (do op ","; dottedName; newName)

def importedName : Parser Unit := do
  let _ ← name
  newName

def importFrom : Parser Unit := do
  let dots ← many (op "." <|> op "...")
  if dots.isEmpty then dottedName else let _ ← optionally dottedName
  keyword "import"
  if ← takeOp "*" then return ()
  if ← takeOp "(" then
    let _ ← commaSeparated importedName
    op ")"
  else
    let (_, trailing) ← commaSeparated importedName
    guard !trailing

def deletion : Parser Unit := do
  let (targets, _) ← commaSeparated g.primary
  guard (Expr.areDeletable targets)

def names : Parser Unit := do
  let (_, trailing) ← commaSeparated name
  guard !trailing

def raising : Parser Unit := do
  let _ ← optionally do
    let _ ← g.expression
    let _ ← optionally (do keyword "from"; g.expression)

def assertion : Parser Unit := do
  let _ ← g.expression
  let _ ← optionally (do op ","; g.expression)

def wordStatements : List (String × Parser Unit) :=
  [("break", pure ()), ("continue", pure ()), ("global", names), ("nonlocal", names),
    ("import", importNames), ("from", importFrom), ("del", g.deletion), ("raise", g.raising),
    ("assert", g.assertion), ("return", do let _ ← optionally g.starExpressions)]

def simpleStatement : Parser Statement := do
  if ← takeKeyword "pass" then return .pass
  let word ← optionally fun ts =>
    match ts with
    | .keyword w :: rest => (g.wordStatements.lookup w).map fun p => (p, rest)
    | _ => none
  match word with
  | some p => do
    p
    return .other
  | none => g.assignmentOrExpression

def simpleStatements : Parser (List Statement) := do
  let first ← g.simpleStatement
  let rest ← many (do op ";"; g.simpleStatement)
  let _ ← takeOp ";"
  token .lineEnd
  return first :: rest

/-! ## Compound statements -/

section Compound

variable (block : Parser (List Statement))

def body : Parser (List Statement) := do
  op ":"
  block

def orElse : Parser (List Statement) := do
  if ← takeKeyword "else" then body block else return []

/-- Branches: all but the first one stand inside of the one before. -/
def branch : Parser Statement := do
  keyword "if"
  let _ ← g.namedExpression
  let first ← body block
  let others ← many (do keyword "elif"; let _ ← g.namedExpression; body block)
  let last ← orElse block
  return .compound .branch
    (first ++ others.foldr (fun part rest => [.compound .branch (part ++ rest)]) last)

def whileLoop : Parser Statement := do
  keyword "while"
  let _ ← g.namedExpression
  let inside ← body block
  return .compound .loop (inside ++ (← orElse block))

def forLoop : Parser Statement := do
  keyword "for"
  let _ ← g.starTargets
  keyword "in"
  let _ ← g.starExpressions
  let inside ← body block
  return .compound .loop (inside ++ (← orElse block))

/-- A handler; handlers of groups carry a star. -/
def handler (isGroup : Bool) : Parser Statement := do
  keyword "except"
  if isGroup then op "*"
  if isGroup || !(← atOp ":") then
    let _ ← g.expression
    let _ ← optionally (do keyword "as"; name)
  return .clause (← body block)

def finale : Parser (List Statement) := do
  keyword "finally"
  body block

def attempt : Parser Statement := do
  keyword "try"
  let inside ← body block
  if ← atKeyword "finally" then return .compound .attempt (inside ++ (← finale block))
  let handlers ← many1 (g.handler block false) <|> many1 (g.handler block true)
  let other ← orElse block
  let last ← optionally (finale block)
  return .compound .attempt (inside ++ handlers ++ other ++ last.getD [])

def contextItem : Parser Unit := do
  let _ ← g.expression
  if ← takeKeyword "as" then
    let _ ← g.starTarget
    unless (← atOp ",") || (← atOp ")") || (← atOp ":") do failure

def contextItems : Parser Unit :=
  (do let _ ← between "(" (commaSeparated g.contextItem) ")"
      unless ← atOp ":" do failure) <|>
    (do let (_, trailing) ← commaSeparated g.contextItem
        guard !trailing)

def context : Parser Statement := do
  keyword "with"
  g.contextItems
  return .compound .context (← body block)

def caseClause (depth : Nat) : Parser Statement := do
  softKeyword "case"
  Pattern.top g depth
  let _ ← optionally (do keyword "if"; g.namedExpression)
  return .clause (← body block)

def choice (depth : Nat) : Parser Statement := do
  softKeyword "match"
  let (subjects, trailing) ← commaSeparated g.starNamedExpression
  guard (trailing || subjects.length ≠ 1 || !subjects.any (·.isStarred))
  op ":"
  token .lineEnd
  token .indent
  let cases ← many1 (g.caseClause block depth)
  token .dedent
  return .compound .choice cases

def classDef (decorators : List Expr) : Parser Statement := do
  keyword "class"
  let id ← name
  let (bases, keywords) ←
    if ← atOp "(" then between "(" (g.arguments false) ")" else pure ([], [])
  return .classDef id decorators bases keywords (← body block)

def functionDef (isAsync : Bool) (decorators : List Expr) : Parser Statement := do
  keyword "def"
  let id ← name
  let ps ← between "(" (g.parameters false ")") ")"
  let returns ← if ← takeOp "->" then some <$> g.expression else pure none
  return .functionDef isAsync id decorators ps returns (← body block)

def decorator : Parser Expr := do
  op "@"
  let e ← g.namedExpression
  token .lineEnd
  return e

def decorated : Parser Statement := do
  let decorators ← many1 g.decorator
  if ← atKeyword "class" then g.classDef block decorators
  else g.functionDef block (← takeKeyword "async") decorators

def asyncStatement : Parser Statement := do
  keyword "async"
  if ← atKeyword "def" then g.functionDef block true []
  else if ← atKeyword "with" then g.context block
  else g.forLoop block

def compoundStatements : List (String × Parser Statement) :=
  [("if", g.branch block), ("while", g.whileLoop block), ("for", g.forLoop block),
    ("try", g.attempt block), ("with", g.context block), ("class", g.classDef block []),
    ("def", g.functionDef block false []), ("async", g.asyncStatement block)]

def statement (depth : Nat) : Parser (List Statement) := fun ts =>
  let one (p : Parser Statement) := (do return [← p] : Parser (List Statement))
  match ts with
  | .keyword w :: _ => ((g.compoundStatements block).lookup w).elim g.simpleStatements one ts
  | .op "@" :: _ => one (g.decorated block) ts
  | .name "match" :: _ => (one (g.choice block depth) <|> g.simpleStatements) ts
  | _ => g.simpleStatements ts

def statements (depth : Nat) : Parser (List Statement) := do
  return (← many (g.statement block depth)).flatten

end Compound

/-- A block on lines of its own, nested up to a depth, or statements behind the colon. -/
def block (depth : Nat) : Nat → Parser (List Statement)
  | 0 => failure
  | n + 1 => do
    if ← takeToken .lineEnd then
      token .indent
      let inside ← g.statements (block depth n) depth
      token .dedent
      return inside
    else g.simpleStatements

end Grammar

def parseModule (text : String) : Option (List Statement) := do
  let cs := text.toList
  let depth := cs.length + 2
  let g := Grammar.ofDepth depth
  let ts ← tokens cs
  match g.statements (g.block depth depth) depth ts with
  | some (body, []) => some body
  | _ => none

end TacticalDesign.Source
