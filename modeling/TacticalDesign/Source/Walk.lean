import TacticalDesign.Source.Statement
/-!
# The statements inside of a statement

Statements are visited level by level: first all that stand directly inside, in their order, then
those inside of these, and so on.
-/

namespace TacticalDesign.Source

namespace Statement

def inside : Statement → List Statement
  | classDef _ _ _ _ body => body
  | functionDef _ _ _ _ _ body => body
  | compound _ parts => parts
  | clause body => body
  | _ => []

mutual

def height : Statement → Nat
  | classDef _ _ _ _ body => heights body + 1
  | functionDef _ _ _ _ _ body => heights body + 1
  | compound _ parts => heights parts + 1
  | clause body => heights body + 1
  | _ => 1

def heights : List Statement → Nat
  | [] => 0
  | s :: rest => max s.height (heights rest)

end

/-- The statements of a level, and below it those of `depth` more levels. -/
def levels (level : List Statement) : Nat → List Statement
  | 0 => level
  | depth + 1 => level ++ levels (level.flatMap inside) depth

def walk (statements : List Statement) : List Statement :=
  levels statements (heights statements)

end Statement

end TacticalDesign.Source
