import TacticalDesign.Classification
import TacticalDesign.Graph
/-!
# Structural differences

What exactly changed between two revisions of one symbol: members by name, edges, the shape of the
declaration, and the classification.
-/

namespace TacticalDesign

structure StructuralDiff where
  fieldsAdded : List String := []
  fieldsRemoved : List String := []
  fieldsChanged : List String := []
  methodsAdded : List String := []
  methodsRemoved : List String := []
  methodsChanged : List String := []
  relationshipsAdded : List String := []
  relationshipsRemoved : List String := []
  /-- The parts of the declaration head that differ. -/
  shapeChanged : List String := []
  evidenceAdded : List String := []
  evidenceRemoved : List String := []
  roleChanged : Bool := false
  confidenceChanged : Bool := false
  deriving DecidableEq, Repr

structure Revision where
  symbol : Symbol
  edges : List String
  classification : Option Classification

namespace StructuralDiff

def nameLists (d : StructuralDiff) : List (String × List String) :=
  [("fields_added", d.fieldsAdded), ("fields_removed", d.fieldsRemoved),
    ("fields_changed", d.fieldsChanged), ("methods_added", d.methodsAdded),
    ("methods_removed", d.methodsRemoved), ("methods_changed", d.methodsChanged),
    ("relationships_added", d.relationshipsAdded),
    ("relationships_removed", d.relationshipsRemoved), ("shape_changed", d.shapeChanged),
    ("evidence_added", d.evidenceAdded), ("evidence_removed", d.evidenceRemoved)]

def flags (d : StructuralDiff) : List (String × Bool) :=
  [("role_changed", d.roleChanged), ("confidence_changed", d.confidenceChanged)]

def isEmpty (d : StructuralDiff) : Bool :=
  d.nameLists.all (·.2.isEmpty) && d.flags.all fun f => !f.2

def toJson (d : StructuralDiff) : Json :=
  .object (d.nameLists.map (fun l => (l.1, Json.strings l.2)) ++
    d.flags.map fun f => (f.1, Json.bool f.2))

/-- The members of the first list that the second lacks, in order. -/
def without (a b : List String) : List String := textSet (a.filter fun x => !(x ∈ b))

/-- The field of a name; of several the last one. -/
def field? (s : Symbol) (name : String) : Option FieldDeclaration :=
  s.fields.reverse.find? (·.name == name)

def overloads (s : Symbol) (name : String) : List MethodDeclaration :=
  (s.methods.filter (·.name == name)).mergeSort fun a b => textLe a.signature b.signature

def fieldNames (s : Symbol) : List String := s.fields.map (·.name)

def methodNames (s : Symbol) : List String := s.methods.map (·.name)

def changedNames (old new : List String) (same : String → Bool) : List String :=
  textSet (old.filter fun name => name ∈ new && !same name)

def shapeChanges (old new : Symbol) : List String :=
  (if old.kind = new.kind then [] else ["kind"]) ++
    (if old.bases = new.bases then [] else ["bases"]) ++
    (if old.valueEquality = new.valueEquality then [] else ["value_equality"]) ++
    (if old.isAbstract = new.isAbstract then [] else ["is_abstract"])

/-- The evidence of both revisions where the role held; nothing otherwise. -/
def comparableEvidence (old new : Option Classification) : List String × List String :=
  match old, new with
  | some a, some b => if a.role = b.role then (a.evidence, b.evidence) else ([], [])
  | _, _ => ([], [])

def between (old new : Revision) : StructuralDiff :=
  let a := old.symbol
  let b := new.symbol
  let evidence := comparableEvidence old.classification new.classification
  { fieldsAdded := without (fieldNames b) (fieldNames a)
    fieldsRemoved := without (fieldNames a) (fieldNames b)
    fieldsChanged := changedNames (fieldNames a) (fieldNames b) fun name =>
      field? a name == field? b name
    methodsAdded := without (methodNames b) (methodNames a)
    methodsRemoved := without (methodNames a) (methodNames b)
    methodsChanged := changedNames (methodNames a) (methodNames b) fun name =>
      overloads a name == overloads b name
    relationshipsAdded := without new.edges old.edges
    relationshipsRemoved := without old.edges new.edges
    shapeChanged := shapeChanges a b
    evidenceAdded := without evidence.2 evidence.1
    evidenceRemoved := without evidence.1 evidence.2
    roleChanged := old.classification.map (·.role) != new.classification.map (·.role)
    confidenceChanged :=
      old.classification.map (·.confidence) != new.classification.map (·.confidence) }

end StructuralDiff

end TacticalDesign
