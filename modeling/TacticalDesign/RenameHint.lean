import TacticalDesign.ChangeRecord
import TacticalDesign.Number.Parts
/-!
# Rename hints

Pairs of a removed and an added symbol that look alike. The likeness of two symbols is the mean of
the likeness of their names and of the overlap of their members, in ten-thousandths. How alike two
names are is for another library to say.
-/

namespace TacticalDesign

/-- How alike two texts are, from zero to one. -/
abbrev NameRatio := String → String → Float

namespace Likeness

/-! ## The share of insertions and deletions -/

/-- The row of common subsequence lengths for one more character in front: entry `j` belongs to
the part of the other text from place `j` on. -/
def commonRow (c : Char) : List Char → List Nat → List Nat
  | d :: rest, here :: later =>
    let row := commonRow c rest later
    (if c = d then later.headD 0 + 1 else max here (row.headD 0)) :: row
  | _, _ => [0]

def commonLength (a b : List Char) : Nat :=
  (a.foldr (fun c row => commonRow c b row) (List.replicate (b.length + 1) 0)).headD 0

/-- One less the share of insertions and deletions that turn one text into the other. -/
def indelRatio : NameRatio := fun a b =>
  let total := a.length + b.length
  if total = 0 then 1
  else 1 - (total - 2 * commonLength a.toList b.toList).toFloat / total.toFloat

/-! ## The likeness of symbols -/

def memberNames (s : Symbol) : List String :=
  textSet (s.fields.map (·.name) ++ s.methods.map (·.name))

def memberOverlap (a b : Symbol) : Float :=
  let all := textSet (memberNames a ++ memberNames b)
  if all.isEmpty then 1
  else ((memberNames a).filter (· ∈ memberNames b)).length.toFloat / all.length.toFloat

/-- The likeness of two symbols in ten-thousandths. -/
def ofSymbols (ratio : NameRatio) (a b : Symbol) : Nat :=
  match Number.Parts.ofFloat ((ratio a.name b.name + memberOverlap a b) / 2) with
  | .finite _ m q => Number.scaleRound m q 4
  | _ => 0

def toFloat (n : Nat) : Float := Float.ofScientific n true 4

end Likeness

structure RenameHint where
  removedId : String
  addedId : String
  likeness : Nat
  deriving DecidableEq, Repr

namespace RenameHint

def similarity (h : RenameHint) : Float := Likeness.toFloat h.likeness

def toJson (h : RenameHint) : Json :=
  .object [("removed_id", .string h.removedId), ("added_id", .string h.addedId),
    ("similarity", .float h.similarity)]

/-- The more alike come first, then the smaller removed and added ids. -/
def precedes (a b : RenameHint) : Bool :=
  if a.similarity == b.similarity then
    if a.removedId = b.removedId then textLe a.addedId b.addedId
    else textLe a.removedId b.removedId
  else b.similarity < a.similarity

def reaches (threshold : Float) (h : RenameHint) : Bool := threshold ≤ h.similarity

def pairs (ratio : NameRatio) (removed added : List Symbol) : List RenameHint :=
  removed.flatMap fun a => added.map fun b => ⟨a.id, b.id, Likeness.ofSymbols ratio a b⟩

/-- Takes hints in order, each unless one of its symbols is taken. -/
def takeFree (taken : List RenameHint) : List RenameHint → List RenameHint
  | [] => []
  | h :: rest =>
    if taken.any fun t => t.removedId = h.removedId || t.addedId = h.addedId then
      takeFree taken rest
    else h :: takeFree (h :: taken) rest

def suggest (ratio : NameRatio) (threshold : Float) (removed added : List Symbol) :
    List RenameHint :=
  (takeFree [] (((pairs ratio removed added).filter
    (reaches threshold)).mergeSort precedes)).mergeSort fun a b => textLe a.removedId b.removedId

/-- The symbols of the changes of one kind; an id that the graph lacks ends the search. -/
def changedSymbols (g : SymbolGraph) (kind : ChangeKind) :
    List ChangeRecord → Except String (List Symbol)
  | [] => .ok []
  | r :: rest =>
    if r.kind = kind then
      match g.get? r.symbolId with
      | none => .error r.symbolId
      | some s =>
        match changedSymbols g kind rest with
        | .error id => .error id
        | .ok symbols => .ok (s :: symbols)
    else changedSymbols g kind rest

/-- The hints for a list of changes, or the first id that a graph lacks. -/
def ofChanges (ratio : NameRatio) (threshold : Float) (changes : List ChangeRecord)
    (old new : SymbolGraph) : Except String (List RenameHint) :=
  match changedSymbols old .removed changes with
  | .error id => .error id
  | .ok removed =>
    match changedSymbols new .added changes with
    | .error id => .error id
    | .ok added => .ok (suggest ratio threshold removed added)

end RenameHint

end TacticalDesign
