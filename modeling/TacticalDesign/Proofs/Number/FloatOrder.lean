import Mathlib.Data.Prod.Lex
import Mathlib.Order.Monotone.Basic
import TacticalDesign.Number.Parts
/-!
# The order of floats

Floats that are numbers compare as their standings do: by which side of zero they are on and
whether they are finite, then by exponent and mantissa, both reversed below zero. So they are
ordered linearly, but for the two zeros, which stand in one place.
-/

namespace TacticalDesign.Number

open Float.Model (UnpackedFloat)

/-- Where a float stands among all floats; no number stands nowhere. -/
def standingOf : UnpackedFloat → Option (ℤ ×ₗ ℤ ×ₗ ℤ)
  | .notANumber => none
  | .infinity .negative => some (toLex (-2, toLex (0, 0)))
  | .finite .negative m q _ => some (toLex (-1, toLex (-q, -m)))
  | .zero _ => some (toLex (0, toLex (0, 0)))
  | .finite .positive m q _ => some (toLex (1, toLex (q, m)))
  | .infinity .positive => some (toLex (2, toLex (0, 0)))

private theorem compare_cast (m n : ℕ) : compare (m : ℤ) n = compare m n := by
  have mono : StrictMono (Nat.cast : ℕ → ℤ) := fun _ _ h => Int.ofNat_lt.mpr h
  rw [← cmp_eq_compare, ← cmp_eq_compare]
  exact mono.cmp_map_eq m n

private theorem compare_neg (a b : ℤ) : compare (-a) (-b) = (compare a b).swap := by
  have anti : StrictAnti (Neg.neg : ℤ → ℤ) := fun _ _ h => Int.neg_lt_neg h
  rw [← cmp_eq_compare, ← cmp_eq_compare, cmp_swap]
  exact anti.cmp_map_eq a b

variable {a b : UnpackedFloat} {r s : ℤ ×ₗ ℤ ×ₗ ℤ}

theorem compare_standing (ha : standingOf a = some r) (hb : standingOf b = some s) :
    a.compare b = some (compare r s) := by
  -- Only two finite floats on one side of zero have more to compare than their first parts.
  rcases a with (_ | _) | _ | (_ | _) | ⟨_ | _, m, q, _⟩ <;> cases ha <;>
    rcases b with (_ | _) | _ | (_ | _) | ⟨_ | _, m', q', _⟩ <;> cases hb <;>
    try rfl
  · show some ((compare q q').then (compare m m')).swap =
      some ((compare (-q) (-q')).then (compare (-(m : ℤ)) (-(m' : ℤ))))
    rw [compare_neg, compare_neg, compare_cast]
    cases compare q q' <;> rfl
  · show some ((compare q q').then (compare m m')) =
      some ((compare q q').then (compare (m : ℤ) m'))
    rw [compare_cast]

theorem compare_eq_none (h : standingOf a = none ∨ standingOf b = none) : a.compare b = none := by
  rcases a with (_ | _) | _ | (_ | _) | ⟨_ | _, m, q, _⟩ <;>
    rcases b with (_ | _) | _ | (_ | _) | ⟨_ | _, m', q', _⟩ <;>
    first | rfl | (rcases h with h | h <;> cases h)

def standing (x : Float) : Option (ℤ ×ₗ ℤ ×ₗ ℤ) := standingOf x.toModel.unpack

variable {x y : Float}

theorem lt_iff_standing (hx : standing x = some r) (hy : standing y = some s) :
    x < y ↔ r < s := by
  have compared := compare_standing hx hy
  show decide ((x.toModel.unpack.compare y.toModel.unpack == some .lt) = true) = true ↔ r < s
  rw [compared, decide_eq_true_eq, beq_iff_eq, Option.some_inj, compare_lt_iff_lt]

theorem beq_iff_standing (hx : standing x = some r) (hy : standing y = some s) :
    (x == y) = true ↔ r = s := by
  have compared := compare_standing hx hy
  show (x.toModel.unpack.compare y.toModel.unpack == some .eq) = true ↔ r = s
  rw [compared, beq_iff_eq, Option.some_inj, compare_eq_iff_eq]

theorem le_iff_standing :
    x ≤ y ↔ ∃ r s, standing x = some r ∧ standing y = some s ∧ r ≤ s := by
  show decide ((x.toModel.unpack.compare y.toModel.unpack).any Ordering.isLE = true) = true ↔ _
  rw [decide_eq_true_eq]
  cases hx : standing x with
  | none =>
      rw [compare_eq_none (Or.inl hx)]
      simp
  | some r =>
      cases hy : standing y with
      | none =>
          rw [compare_eq_none (Or.inr hy)]
          simp
      | some s =>
          rw [compare_standing hx hy, Option.any_some, Ordering.isLE_iff_ne_gt]
          simpa using compare_le_iff_le

theorem standings_of_le (h : x ≤ y) :
    ∃ r s, standing x = some r ∧ standing y = some s ∧ r ≤ s := le_iff_standing.mp h

theorem exists_standing_of_le (h : x ≤ y) : ∃ s, standing y = some s := by
  obtain ⟨-, s, -, hs, -⟩ := standings_of_le h
  exact ⟨s, hs⟩

theorem exists_standing_iff : (∃ s, standing x = some s) ↔ x.isNaN = false := by
  show (∃ s, standingOf x.toModel.unpack = some s) ↔ x.toModel.unpack.isNaN = false
  generalize x.toModel.unpack = a
  rcases a with (_ | _) | _ | (_ | _) | ⟨_ | _, m, q, _⟩
  case notANumber => exact ⟨nofun, nofun⟩
  all_goals exact iff_of_true ⟨_, rfl⟩ rfl

theorem exists_standing (h : x.isNaN = false) : ∃ s, standing x = some s :=
  exists_standing_iff.mpr h

theorem isNaN_of_standing (h : standing x = some r) : x.isNaN = false :=
  exists_standing_iff.mp ⟨r, h⟩

theorem isNaN_of_isFinite (h : x.isFinite = true) : x.isNaN = false := by
  change x.toModel.unpack.isFinite = true at h
  show x.toModel.unpack.isNaN = false
  generalize x.toModel.unpack = a at h
  rcases a with _ | _ | _ | _
  case notANumber => cases h
  all_goals rfl

theorem floatLe_of_numbers (hx : x.isNaN = false) (hy : y.isNaN = false) (h : ¬x < y) :
    y ≤ x := by
  obtain ⟨r, hr⟩ := exists_standing hx
  obtain ⟨s, hs⟩ := exists_standing hy
  exact le_iff_standing.mpr ⟨s, r, hs, hr, not_lt.mp fun below =>
    h ((lt_iff_standing hr hs).mpr below)⟩

theorem floatLt_of_numbers (hx : x.isNaN = false) (hy : y.isNaN = false) (h : ¬x ≤ y) :
    y < x := by
  obtain ⟨r, hr⟩ := exists_standing hx
  obtain ⟨s, hs⟩ := exists_standing hy
  exact (lt_iff_standing hs hr).mpr (not_le.mp fun below =>
    h (le_iff_standing.mpr ⟨r, s, hr, hs, below⟩))

theorem not_floatLt_of_le (h : x ≤ y) : ¬y < x := by
  obtain ⟨r, s, hr, hs, hrs⟩ := standings_of_le h
  rw [lt_iff_standing hs hr]
  exact not_lt.mpr hrs

theorem numbers_of_le (h : x ≤ y) : x.isNaN = false ∧ y.isNaN = false := by
  obtain ⟨r, s, hr, hs, -⟩ := standings_of_le h
  exact ⟨isNaN_of_standing hr, isNaN_of_standing hs⟩

theorem numbers_of_lt (h : x < y) : x.isNaN = false ∧ y.isNaN = false := by
  by_contra not_numbers
  have nowhere : standing x = none ∨ standing y = none := by
    by_contra somewhere
    obtain ⟨hx, hy⟩ := not_or.mp somewhere
    obtain ⟨r, hr⟩ := Option.ne_none_iff_exists'.mp hx
    obtain ⟨s, hs⟩ := Option.ne_none_iff_exists'.mp hy
    exact not_numbers ⟨isNaN_of_standing hr, isNaN_of_standing hs⟩
  have compared : x.toModel.unpack.compare y.toModel.unpack = none := compare_eq_none nowhere
  change decide ((x.toModel.unpack.compare y.toModel.unpack == some .lt) = true) = true at h
  rw [compared] at h
  cases h

theorem not_floatLe_of_lt (h : x < y) : ¬y ≤ x := by
  intro back
  obtain ⟨s, r, hs, hr, hsr⟩ := standings_of_le back
  exact not_lt.mpr hsr ((lt_iff_standing hr hs).mp h)

theorem floatLe_of_not_lt (hx : x.isFinite = true) (hy : y.isFinite = true) (h : ¬x < y) :
    y ≤ x :=
  floatLe_of_numbers (isNaN_of_isFinite hx) (isNaN_of_isFinite hy) h

theorem floatLe_trans {z : Float} (hxy : x ≤ y) (hyz : y ≤ z) : x ≤ z := by
  obtain ⟨r, s, hr, hs, hrs⟩ := standings_of_le hxy
  obtain ⟨s', t, hs', ht, hst⟩ := standings_of_le hyz
  obtain rfl : s = s' := Option.some.inj (hs.symm.trans hs')
  exact le_iff_standing.mpr ⟨r, t, hr, ht, hrs.trans hst⟩

end TacticalDesign.Number
