import TacticalDesign.Source.Literal
/-!
# Expressions of module source
-/

namespace TacticalDesign.Source

inductive UnaryOp where
  | invert
  | negation
  | plus
  | minus
  deriving DecidableEq, Repr

inductive BinaryOp where
  | add
  | sub
  | mul
  | matMul
  | div
  | floorDiv
  | mod
  | pow
  | shiftLeft
  | shiftRight
  | bitOr
  | bitXor
  | bitAnd
  deriving DecidableEq, Repr

inductive BooleanOp where
  | both
  | either
  deriving DecidableEq, Repr

inductive CompareOp where
  | eq
  | notEq
  | lt
  | le
  | gt
  | ge
  | same
  | notSame
  | member
  | notMember
  deriving DecidableEq, Repr

inductive ComprehensionKind where
  | list
  | set
  | generator
  deriving DecidableEq, Repr

inductive ParameterKind where
  | positionalOnly
  | positional
  | variadic
  | keywordOnly
  | variadicKeyword
  deriving DecidableEq, Repr

mutual

inductive Expr where
  | name (id : String)
  | literal (value : Literal)
  /-- A string with fields in it. -/
  | interpolated (pieces : List Piece)
  | member (value : Expr) (name : String)
  | subscript (value index : Expr)
  | slice (lower upper step : Option Expr)
  | call (function : Expr) (arguments : List Expr) (keywords : List Keyword)
  | starred (value : Expr)
  | unary (op : UnaryOp) (operand : Expr)
  | binary (op : BinaryOp) (left right : Expr)
  | boolean (op : BooleanOp) (values : List Expr)
  | comparison (left : Expr) (rest : List Comparison)
  | conditional (body test orElse : Expr)
  | lambda (parameters : List Parameter) (body : Expr)
  | tuple (items : List Expr)
  | list (items : List Expr)
  | set (items : List Expr)
  | dict (entries : List Entry)
  | comprehension (kind : ComprehensionKind) (element : Expr) (clauses : List Clause)
  | dictComprehension (key value : Expr) (clauses : List Clause)
  | await (value : Expr)
  | yield (value : Option Expr)
  | yieldFrom (value : Expr)
  /-- An assignment inside of an expression. -/
  | named (target value : Expr)

inductive Piece where
  | text (value : String)
  | field (value : Expr) (conversion : Option Char) (format : Option (List Piece))

/-- A keyword argument; without a name it spreads a mapping. -/
inductive Keyword where
  | mk (name : Option String) (value : Expr)

inductive Comparison where
  | mk (op : CompareOp) (right : Expr)

/-- An entry of a dictionary; without a key it spreads a mapping. -/
inductive Entry where
  | mk (key : Option Expr) (value : Expr)

inductive Clause where
  | mk (isAsync : Bool) (target source : Expr) (conditions : List Expr)

inductive Parameter where
  | mk (kind : ParameterKind) (name : String) (typeExpr fallback : Option Expr)

end

instance : Inhabited Expr := ⟨.tuple []⟩

namespace Parameter

def kind : Parameter → ParameterKind
  | mk kind _ _ _ => kind

def name : Parameter → String
  | mk _ name _ _ => name

def typeExpr : Parameter → Option Expr
  | mk _ _ typeExpr _ => typeExpr

end Parameter

namespace Keyword

def name : Keyword → Option String
  | mk name _ => name

def value : Keyword → Expr
  | mk _ value => value

end Keyword

namespace Expr

mutual

/-- What may stand to the left of an assignment. -/
def isTarget : Expr → Bool
  | name _ => true
  | member _ _ => true
  | subscript _ _ => true
  | starred value => value.isTarget
  | tuple items => areTargets items
  | list items => areTargets items
  | _ => false

def areTargets : List Expr → Bool
  | [] => true
  | e :: rest => e.isTarget && areTargets rest

end

mutual

/-- What may be deleted: targets without a star. -/
def isDeletable : Expr → Bool
  | name _ => true
  | member _ _ => true
  | subscript _ _ => true
  | tuple items => areDeletable items
  | list items => areDeletable items
  | _ => false

def areDeletable : List Expr → Bool
  | [] => true
  | e :: rest => e.isDeletable && areDeletable rest

end

def isSingleTarget : Expr → Bool
  | name _ => true
  | member _ _ => true
  | subscript _ _ => true
  | _ => false

def isStarred : Expr → Bool
  | starred _ => true
  | _ => false

end Expr

end TacticalDesign.Source
