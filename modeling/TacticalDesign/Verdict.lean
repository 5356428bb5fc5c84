import TacticalDesign.Classification
import TacticalDesign.Config
import TacticalDesign.Registry
import TacticalDesign.Vote
/-!
# Verdicts

Every rule that scores a symbol above zero votes for its role with the product of weight and score.
The role with the greatest rounded vote wins; the order of the roles breaks ties. All of it is
stated over any kind of vote.
-/

namespace TacticalDesign

structure Ballot where
  rule : Rule
  score : Float

namespace Confidence

variable {V : Type} [Vote V]

def level (config : ScanConfig) (vote : V) : Level :=
  if Vote.le (Vote.ofNumber (.float config.highThreshold)) vote then .high
  else if Vote.le (Vote.ofNumber (.float config.mediumThreshold)) vote then .medium
  else .low

def total (votes : List V) : V := votes.foldl Vote.add Vote.zero

/-- The share of the winning vote in all votes; zero when there is nothing to share. -/
def support (winner : V) (votes : List V) : V :=
  if Vote.le (total votes) Vote.zero then Vote.zero
  else Vote.round (Vote.div winner (total votes))

end Confidence

structure RoleVote (V : Type) where
  role : Role
  vote : V

namespace Ballot

/-- The ballots of a symbol in the order of the rules. The first rule that fails ends the count. -/
def cast (symbol : Symbol) (graph : SymbolGraph) : List Rule → Except RuleError (List Ballot)
  | [] => .ok []
  | rule :: rest =>
    match rule.score symbol graph with
    | .error e => .error e
    | .ok score =>
      match cast symbol graph rest with
      | .error e => .error e
      | .ok ballots => .ok (if 0 < score then ⟨rule, score⟩ :: ballots else ballots)

variable {V : Type} [Vote V]

def vote (b : Ballot) : V := Vote.mul (Vote.ofNumber b.rule.weight) (Vote.ofNumber (.float b.score))

def roles (ballots : List Ballot) : List Role := firstOccurrences (ballots.map (·.rule.role))

def votesFor (role : Role) (ballots : List Ballot) : List Ballot :=
  ballots.filter (·.rule.role == role)

def count (ballots : List Ballot) : List (RoleVote V) :=
  (roles ballots).map fun role =>
    ⟨role, Vote.round (Confidence.total ((votesFor role ballots).map vote))⟩

end Ballot

namespace RoleVote

variable {V : Type} [Vote V]

/-- Greater votes come first, equal ones by role. -/
def precedes (a b : RoleVote V) : Bool :=
  Vote.lt b.vote a.vote || (!Vote.lt a.vote b.vote && a.role.rank ≤ b.role.rank)

def rank (votes : List (RoleVote V)) : List (RoleVote V) := votes.mergeSort precedes

end RoleVote

structure Verdict (V : Type) where
  role : Role
  vote : V
  support : V
  ambiguous : Bool
  level : Level
  alternates : List (RoleVote V)
  evidence : List String

namespace Verdict

variable {V : Type} [Vote V]

def isClose (config : ScanConfig) (winner other : V) : Bool :=
  Vote.le (Vote.round (Vote.sub winner other)) (Vote.ofNumber (.float config.ambiguityMargin))

def ofBallots (config : ScanConfig) (ballots : List Ballot) : Option (Verdict V) :=
  let votes : List (RoleVote V) := Ballot.count ballots
  match RoleVote.rank votes with
  | [] => none
  | winner :: others =>
    let tied := others.any fun other => Vote.same other.vote winner.vote
    some {
      role := winner.role
      vote := winner.vote
      support := Confidence.support winner.vote (votes.map (·.vote))
      ambiguous := tied
      level := if tied then .low else Confidence.level config winner.vote
      alternates := others.filter fun other => isClose config winner.vote other.vote
      evidence := (Ballot.votesFor winner.role ballots).map (·.rule.id) }

def of (registry : RuleRegistry) (config : ScanConfig) (graph : SymbolGraph) (symbol : Symbol) :
    Except RuleError (Verdict V) :=
  match Ballot.cast symbol graph registry.rules with
  | .error e => .error e
  | .ok ballots =>
    match ofBallots config ballots with
    | none => .error (.uncovered symbol.id)
    | some v => .ok v

end Verdict

namespace Classification

def ofVerdict (symbolId : String) (v : Verdict Float) : Classification where
  symbolId := symbolId
  role := v.role
  confidence := v.level
  score := .float v.vote
  support := .float v.support
  alternates := v.alternates.map fun a => ⟨a.role, .float a.vote⟩
  evidence := v.evidence
  ambiguous := v.ambiguous

def ofSymbol (registry : RuleRegistry) (config : ScanConfig) (graph : SymbolGraph)
    (symbol : Symbol) : Except RuleError Classification :=
  match (Verdict.of registry config graph symbol : Except RuleError (Verdict Float)) with
  | .error e => .error e
  | .ok v => .ok (ofVerdict symbol.id v)

/-- Classifies symbols in their order; the first that fails ends it. -/
def ofSymbols (registry : RuleRegistry) (config : ScanConfig) (graph : SymbolGraph) :
    List Symbol → Except RuleError (List Classification)
  | [] => .ok []
  | symbol :: rest =>
    match ofSymbol registry config graph symbol with
    | .error e => .error e
    | .ok c =>
      match ofSymbols registry config graph rest with
      | .error e => .error e
      | .ok cs => .ok (c :: cs)

def ofGraph (registry : RuleRegistry) (config : ScanConfig) (graph : SymbolGraph) :
    Except RuleError (List Classification) :=
  ofSymbols registry config graph graph.symbols

end Classification

end TacticalDesign
