import TacticalDesign.Text.CodeRange
import TacticalDesign.Text.NormalTable
/-!
# Compatibility composition

The normal form KC of identifiers: decompose fully, put combining marks into canonical order, then
compose. ASCII texts are already normal and come back as they are.
-/

namespace TacticalDesign.Text.Normal

/-- One decomposition entry: the members `first` to `last`, the image of the first member. A run
of more than one member has single images at the same distance. -/
structure Decomposition where
  first : Nat
  last : Nat
  image : List Nat

def Decomposition.ofEntry (entry : List Char) : Decomposition :=
  match cutAtChar '>' entry with
  | (members, image) =>
    let r := CodeRange.ofEntry members
    ⟨r.first, r.last, (splitAtChar '.' (image.getD [])).map hexValue⟩

private def decompositions : List Decomposition :=
  (tableEntries NormalTable.decompositions).map Decomposition.ofEntry

private def combiningClasses : List (CodeRange × Nat) :=
  (tableEntries NormalTable.combiningClasses).map fun entry =>
    match cutAtChar '>' entry with
    | (members, value) => (CodeRange.ofEntry members, hexValue (value.getD []))

private def composites : List ((Nat × Nat) × Nat) :=
  (tableEntries NormalTable.composites).map fun entry =>
    match cutAtChar '>' entry with
    | (pair, value) =>
      match cutAtChar '.' pair with
      | (a, b) => ((hexValue a, hexValue (b.getD [])), hexValue (value.getD []))

private def hangulBase : Nat := 0xac00
private def leadBase : Nat := 0x1100
private def vowelBase : Nat := 0x1161
private def tailBase : Nat := 0x11a7

def decompose (n : Nat) : List Nat :=
  if n < 128 then [n]
  else if hangulBase ≤ n ∧ n < hangulBase + 11172 then
    let s := n - hangulBase
    let tail := s % 28
    [leadBase + s / 588, vowelBase + s % 588 / 28] ++ (if tail = 0 then [] else [tailBase + tail])
  else match decompositions.find? (fun d => d.first ≤ n && n ≤ d.last) with
    | some d => match d.image with
      | [m] => [m + (n - d.first)]
      | image => image
    | none => [n]

def combiningClass (n : Nat) : Nat :=
  if n < 0x300 then 0
  else match combiningClasses.find? (·.1.contains n) with
    | some (_, value) => value
    | none => 0

/-- Puts a mark behind the marks before it of a class not above its own. -/
def insertMark (mark : Nat × Nat) : List (Nat × Nat) → List (Nat × Nat)
  | [] => [mark]
  | m :: rest => if m.2 ≤ mark.2 then m :: insertMark mark rest else mark :: m :: rest

/-- Canonical order: every run of marks sorted by class, equal classes in their order. `marks` is
the sorted run collected so far. -/
def orderMarks (marks : List (Nat × Nat)) : List Nat → List (Nat × Nat)
  | [] => marks
  | n :: rest =>
    let k := combiningClass n
    if k = 0 then marks ++ (n, 0) :: orderMarks [] rest
    else orderMarks (insertMark (n, k) marks) rest

def composePair (a b : Nat) : Option Nat :=
  if leadBase ≤ a ∧ a < leadBase + 19 ∧ vowelBase ≤ b ∧ b < vowelBase + 21 then
    some (hangulBase + ((a - leadBase) * 21 + (b - vowelBase)) * 28)
  else if hangulBase ≤ a ∧ a < hangulBase + 11172 ∧ (a - hangulBase) % 28 = 0 ∧
      tailBase < b ∧ b < tailBase + 28 then
    some (a + (b - tailBase))
  else (composites.find? (·.1 == (a, b))).map (·.2)

/-- Composition behind a starter. `kept` holds, in reverse, the marks that did not join it, and
`last` the class of the newest of them. -/
def composeFrom (starter : Nat) (kept : List Nat) (last : Option Nat) :
    List (Nat × Nat) → List Nat
  | [] => starter :: kept.reverse
  | (n, k) :: rest =>
    let blocked := match last with
      | none => false
      | some l => l ≥ k
    match if blocked then none else composePair starter n with
    | some joined => composeFrom joined kept last rest
    | none =>
      if k = 0 then starter :: kept.reverse ++ composeFrom n [] none rest
      else composeFrom starter (n :: kept) (some k) rest

/-- Composition of an ordered text; marks before the first starter stay as they are. -/
def compose : List (Nat × Nat) → List Nat
  | [] => []
  | (n, k) :: rest => if k = 0 then composeFrom n [] none rest else n :: compose rest

end Normal

def normalIdentifier (s : String) : String :=
  if s.toList.all (·.toNat < 128) then s
  else
    let codes := s.toList.flatMap fun c => Normal.decompose c.toNat
    String.ofList ((Normal.compose (Normal.orderMarks [] codes)).map Char.ofNat)

end TacticalDesign.Text
