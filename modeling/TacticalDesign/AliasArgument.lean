import TacticalDesign.ChangeRecord
import TacticalDesign.Text.Trim
/-!
# Alias arguments

An alias is written `OLD=NEW`; blanks around either id do not count.
-/

namespace TacticalDesign

inductive AliasArgumentError where
  | malformed (argument : String)
  | duplicate (id : String)
  deriving DecidableEq, Repr

def AliasArgumentError.message : AliasArgumentError → String
  | malformed argument => "Invalid alias (expected OLD=NEW): " ++ argument
  | duplicate id => "Duplicate alias for " ++ id

namespace Aliases

/-- The two ids of an argument, when both are there. -/
def ids? (argument : String) : Option (String × String) :=
  match Text.cutAtChar '=' argument.toList with
  | (old, some new) =>
    let old := Text.trim (String.ofList old)
    let new := Text.trim (String.ofList new)
    if old.isEmpty || new.isEmpty then none else some (old, new)
  | (_, none) => none

def addArguments (aliases : Aliases) : List String → Except AliasArgumentError Aliases
  | [] => .ok aliases
  | argument :: rest =>
    match ids? argument with
    | none => .error (.malformed argument)
    | some (old, new) =>
      if aliases.any (·.1 == old) then .error (.duplicate old)
      else addArguments (aliases ++ [(old, new)]) rest

def ofArguments (arguments : List String) : Except AliasArgumentError Aliases :=
  addArguments [] arguments

end Aliases

end TacticalDesign
