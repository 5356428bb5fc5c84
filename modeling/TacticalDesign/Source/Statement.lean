import TacticalDesign.Source.Expr
/-!
# Statements of module source

Declarations and assignments are kept whole. Of the other compound statements only their blocks are
kept, of the other simple ones nothing.
-/

namespace TacticalDesign.Source

inductive BlockKind where
  | branch
  | loop
  | attempt
  | context
  | choice
  deriving DecidableEq, Repr

inductive Statement where
  | classDef (name : String) (decorators bases : List Expr) (keywords : List Keyword)
      (body : List Statement)
  | functionDef (isAsync : Bool) (name : String) (decorators : List Expr)
      (parameters : List Parameter) (returns : Option Expr) (body : List Statement)
  | annotated (target typeExpr : Expr) (value : Option Expr)
  | assign (targets : List Expr) (value : Expr)
  | expression (value : Expr)
  | pass
  /-- A branch, loop, `try`, `with` or `match` statement by the statements directly in it. The
  handlers of an attempt and the cases of a choice are clauses. -/
  | compound (kind : BlockKind) (parts : List Statement)
  /-- One handler of an attempt, or one case of a choice. -/
  | clause (body : List Statement)
  | other

instance : Inhabited Statement := ⟨.pass⟩

end TacticalDesign.Source
