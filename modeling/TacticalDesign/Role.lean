/-!
# Roles and levels

The tactical roles in their fixed order, which breaks ties and groups rules, and the three levels
of confidence and severity. A word outside the vocabulary is kept as written.
-/

namespace TacticalDesign

inductive Role where
  | aggregateRoot
  | entity
  | valueObject
  | domainService
  | domainEvent
  | repositoryInterface
  | drivenPort
  | factory
  | specification
  | policy
  | other (word : String)
  deriving DecidableEq, Repr

namespace Role

def all : List Role :=
  [aggregateRoot, entity, valueObject, domainService, domainEvent, repositoryInterface,
    drivenPort, factory, specification, policy]

def word : Role → String
  | aggregateRoot => "aggregate_root"
  | entity => "entity"
  | valueObject => "value_object"
  | domainService => "domain_service"
  | domainEvent => "domain_event"
  | repositoryInterface => "repository_interface"
  | drivenPort => "driven_port"
  | factory => "factory"
  | specification => "specification"
  | policy => "policy"
  | other w => w

def ofWord? (w : String) : Option Role := all.find? (·.word == w)

def ofWord (w : String) : Role := (ofWord? w).getD (other w)

/-- The place of a role in the order; unknown roles come last. -/
def rank (r : Role) : Nat := all.idxOf r

def isKnown : Role → Bool
  | other _ => false
  | _ => true

theorem mem_all_iff {r : Role} : r ∈ all ↔ r.isKnown = true := by
  cases r <;> simp [all, isKnown]

theorem ofWord?_word {r : Role} (h : r.isKnown = true) : ofWord? r.word = some r := by
  cases r <;> first | rfl | simp [isKnown] at h

end Role

inductive Level where
  | high
  | medium
  | low
  | other (word : String)
  deriving DecidableEq, Repr

namespace Level

def word : Level → String
  | high => "high"
  | medium => "medium"
  | low => "low"
  | other w => w

def ofWord (w : String) : Level :=
  if w = "high" then high
  else if w = "medium" then medium
  else if w = "low" then low
  else other w

def isKnown : Level → Bool
  | other _ => false
  | _ => true

end Level

end TacticalDesign
