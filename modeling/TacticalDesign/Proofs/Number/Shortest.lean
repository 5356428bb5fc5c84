import TacticalDesign.Proofs.Number.Conversion
/-!
# Shortest decimals

The search for the shortest decimal of a float ends at one that rounds to the float: sums of powers
of two and ten are compared exactly, and a grid of seventeen digits is fine enough for one of the
neighbours on it to be a hit.
-/

namespace TacticalDesign.Number

variable {x : ℚ} {m : Nat} {q : Int}

/-! ## Decimals against floats -/

theorem zpow_mul_neg_toNat {b : ℚ} (hb : b ≠ 0) (e : Int) :
    b ^ e * b ^ (-e).toNat = b ^ e.toNat := by
  rw [← zpow_natCast, ← zpow_natCast, ← zpow_add₀ hb]
  congr 1
  omega

/-- What both kinds of numbers are multiplied by to be compared as whole numbers. -/
def scale (e q : Int) : ℚ := 10 ^ (-e).toNat * 2 ^ (-q).toNat

theorem scale_pos (e q : Int) : 0 < scale e q := by
  unfold scale
  positivity

theorem decimal_scaled (a : ℚ) (e q : Int) :
    a * 10 ^ e * scale e q = a * 10 ^ e.toNat * 2 ^ (-q).toNat := by
  rw [scale, ← zpow_mul_neg_toNat (by norm_num : (10 : ℚ) ≠ 0) e]
  ring

theorem binary_scaled (a : ℚ) (e q : Int) :
    a * 2 ^ q * scale e q = a * 2 ^ q.toNat * 10 ^ (-e).toNat := by
  rw [scale, ← zpow_mul_neg_toNat (by norm_num : (2 : ℚ) ≠ 0) q]
  ring

theorem decimalLe_iff {n : Nat} {e : Int} {m : Nat} {q : Int} :
    decimalLe n e m q = true ↔ (n : ℚ) * 10 ^ e ≤ m * 2 ^ q := by
  rw [← mul_le_mul_iff_left₀ (scale_pos e q), decimal_scaled, binary_scaled, decimalLe,
    decide_eq_true_eq, tenTo, tenTo, twoTo, twoTo]
  norm_cast

theorem binaryLe_iff {n : Nat} {e : Int} {m : Nat} {q : Int} :
    binaryLe m q n e = true ↔ (m : ℚ) * 2 ^ q ≤ n * 10 ^ e := by
  rw [← mul_le_mul_iff_left₀ (scale_pos e q), decimal_scaled, binary_scaled, binaryLe,
    decide_eq_true_eq, tenTo, tenTo, twoTo, twoTo]
  norm_cast

theorem floorAt_spec (m : Nat) (q e : Int) :
    (floorAt m q e : ℚ) * 10 ^ e ≤ m * 2 ^ q ∧ (m : ℚ) * 2 ^ q < (floorAt m q e + 1) * 10 ^ e := by
  have divisor : 0 < tenTo e.toNat * twoTo (-q).toNat :=
    Nat.mul_pos (Nat.pow_pos (by decide)) (Nat.pow_pos (by decide))
  constructor
  · rw [← decimalLe_iff, decimalLe, decide_eq_true_eq, mul_assoc]
    exact Nat.div_mul_le_self _ _
  · have below : ¬decimalLe (floorAt m q e + 1) e m q = true := by
      rw [decimalLe, decide_eq_true_eq, mul_assoc, not_le]
      exact Nat.lt_mul_of_div_lt (Nat.lt_succ_self _) divisor
    rw [decimalLe_iff, not_le] at below
    exact_mod_cast below

/-! ## Hits -/

theorem quarters (canonical : IsCanonical m q) :
    ((Rounding.of m q).lower : ℚ) * 2 ^ (Rounding.of m q).exponent = (m - reach m q) * 2 ^ q ∧
      ((Rounding.of m q).upper : ℚ) * 2 ^ (Rounding.of m q).exponent = (m + 1 / 2) * 2 ^ q ∧
      ((Rounding.of m q).value : ℚ) * 2 ^ (Rounding.of m q).exponent = m * 2 ^ q := by
  have quarter : (2 : ℚ) ^ (q - 2) = 2 ^ q / 4 := by
    rw [zpow_sub₀ (by norm_num)]
    norm_num
  have pos := canonical.pos
  simp only [Rounding.of]
  rw [quarter]
  refine ⟨?_, ?_, ?_⟩
  · have unit : Parts.leadingUnit = 2 ^ 52 := rfl
    rw [unit, reach]
    split
    · rw [Nat.cast_sub (by omega)]
      push_cast
      ring
    · rw [Nat.cast_sub (by omega)]
      push_cast
      ring
  · push_cast
    ring
  · push_cast
    ring

theorem contains_iff (canonical : IsCanonical m q) {n : Nat} {e : Int} :
    (Rounding.of m q).contains n e = true ↔ RoundsTo (n * 10 ^ e) m q := by
  obtain ⟨lower, upper, -⟩ := quarters canonical
  rw [roundsTo_iff, Rounding.contains]
  have closed : (Rounding.of m q).closed = decide (m % 2 = 0) := rfl
  by_cases even : m % 2 = 0
  · rw [closed, if_pos (decide_eq_true even), Bool.and_eq_true, binaryLe_iff, decimalLe_iff, lower,
      upper]
    simp [even]
  · rw [closed, if_neg (by simpa using even), Bool.and_eq_true, Bool.not_eq_true',
      Bool.not_eq_true', ← Bool.not_eq_true, ← Bool.not_eq_true, decimalLe_iff, binaryLe_iff, lower,
      upper, not_le, not_le]
    constructor
    · rintro ⟨below, above⟩
      refine ⟨below.le, above.le, ?_⟩
      rintro (same | same) <;> linarith
    · rintro ⟨below, above, ends⟩
      exact ⟨lt_of_le_of_ne below fun same => even (ends (Or.inl same.symm)),
        lt_of_le_of_ne above fun same => even (ends (Or.inr same))⟩

theorem roundsTo_of_hit (canonical : IsCanonical m q) {e : Int} {n : Nat}
    (hit : gridHit (Rounding.of m q) e = some n) : RoundsTo (n * 10 ^ e) m q := by
  simp only [gridHit] at hit
  split at hit
  · rename_i lower upper
    rw [Bool.and_eq_true] at lower
    split at hit <;> cases hit
    · exact (contains_iff canonical).mp lower.2
    · exact (contains_iff canonical).mp upper
  · rename_i lower upper
    rw [Bool.and_eq_true] at lower
    cases hit
    exact (contains_iff canonical).mp lower.2
  · rename_i lower upper
    cases hit
    exact (contains_iff canonical).mp upper
  · cases hit

/-- The least power of ten above a number, where the search starts at or below it and goes far
enough. -/
theorem magnitude_spec (start : Int) (fuel : Nat) (low : (10 : ℚ) ^ (start - 1) ≤ m * 2 ^ q)
    (high : (m : ℚ) * 2 ^ q < 10 ^ (start + fuel)) :
    let top := magnitude m q start fuel
    start ≤ top ∧ top ≤ start + fuel ∧ (10 : ℚ) ^ (top - 1) ≤ m * 2 ^ q ∧
      (m : ℚ) * 2 ^ q < 10 ^ top := by
  induction fuel generalizing start with
  | zero =>
      rw [Nat.cast_zero, add_zero] at high
      exact ⟨le_refl _, le_of_eq (by rw [magnitude, Nat.cast_zero, add_zero]), low, high⟩
  | succ fuel ih =>
      rw [magnitude]
      by_cases below : (m : ℚ) * 2 ^ q < 10 ^ start
      · have found : (binaryLe m q 1 start && !decimalLe 1 start m q) = true := by
          rw [Bool.and_eq_true, binaryLe_iff, Bool.not_eq_true', ← Bool.not_eq_true, decimalLe_iff,
            not_le, Nat.cast_one, one_mul]
          exact ⟨below.le, below⟩
        rw [if_pos found]
        exact ⟨le_refl _, by omega, low, below⟩
      · have missed : ¬(binaryLe m q 1 start && !decimalLe 1 start m q) = true := by
          rw [Bool.and_eq_true, Bool.not_eq_true', ← Bool.not_eq_true, decimalLe_iff, Nat.cast_one,
            one_mul]
          exact fun found => below (lt_of_not_ge found.2)
        rw [if_neg missed]
        have next : start + 1 + (fuel : Int) = start + ((fuel + 1 : Nat) : Int) := by
          push_cast
          omega
        obtain ⟨first, last, spec⟩ := ih (start + 1)
          (by rw [Int.add_sub_cancel]; exact not_lt.mp below) (by rw [next]; exact high)
        exact ⟨by omega, by omega, spec⟩

/-- A step of a grid of seventeen digits is smaller than the reach of a float on both sides
together. -/
theorem step_lt_reach (canonical : IsCanonical m q) {e : Int}
    (fine : (10 : ℚ) ^ (e + 16) ≤ m * 2 ^ q) : (10 : ℚ) ^ e < (reach m q + 1 / 2) * 2 ^ q := by
  have unit := twoPow_pos q
  have fits : (m : ℚ) + 1 ≤ 2 ^ 53 := by exact_mod_cast canonical.fits
  rw [zpow_add₀ (by norm_num)] at fine
  unfold reach
  split
  · rename_i dense
    have mantissa : (m : ℚ) = 2 ^ 52 := by exact_mod_cast dense.1
    rw [mantissa] at fine
    linarith
  · have bound : (m : ℚ) * 2 ^ q ≤ 2 ^ 53 * 2 ^ q :=
      mul_le_mul_of_nonneg_right (by linarith) unit.le
    linarith

/-- On a grid of seventeen digits one of the two neighbours of a float reads back. -/
theorem gridHit_isSome (canonical : IsCanonical m q) {e : Int}
    (fine : (10 : ℚ) ^ (e + 16) ≤ m * 2 ^ q) : (gridHit (Rounding.of m q) e).isSome := by
  obtain ⟨-, -, value⟩ := quarters canonical
  obtain ⟨floor, ceil⟩ := floorAt_spec (Rounding.of m q).value (Rounding.of m q).exponent e
  rw [value] at floor ceil
  have narrow := step_lt_reach canonical fine
  obtain ⟨n, on_grid⟩ : ∃ n, floorAt (Rounding.of m q).value (Rounding.of m q).exponent e = n :=
    ⟨_, rfl⟩
  rw [on_grid] at floor ceil
  by_cases inside : (m - reach m q) * 2 ^ q < n * 10 ^ e
  · have pos : 0 < n := by
      by_contra none
      have zero : n = 0 := by omega
      have step := tenPow_pos e
      rw [zero, Nat.cast_zero, zero_add, one_mul] at ceil
      rw [zpow_add₀ (by norm_num)] at fine
      linarith
    have hit : (Rounding.of m q).contains n e = true := by
      rw [contains_iff canonical, roundsTo_iff]
      have unit := twoPow_pos q
      refine ⟨inside.le, by linarith, ?_⟩
      rintro (same | same) <;> linarith
    simp only [gridHit, on_grid, hit, decide_eq_true pos, Bool.and_true]
    split <;> first | rfl | contradiction
  · have hit : (Rounding.of m q).contains (n + 1) e = true := by
      have positive := mul_pos (reach_pos m q) (twoPow_pos q)
      rw [contains_iff canonical, roundsTo_iff]
      push_cast
      refine ⟨by linarith, by linarith, ?_⟩
      rintro (same | same) <;> linarith
    simp only [gridHit, on_grid, hit]
    split <;> first | rfl | contradiction

/-- Cutting trailing zeros keeps the number and raises the exponent by at most one for each. -/
theorem Decimal.trim_spec (n : Nat) (e : Int) (fuel : Nat) :
    let d := Decimal.trim.go n e fuel
    (d.digits : ℚ) * 10 ^ d.exponent = n * 10 ^ e ∧ e ≤ d.exponent ∧ d.exponent ≤ e + fuel := by
  induction fuel generalizing n e with
  | zero => exact ⟨rfl, le_refl _, le_of_eq (add_zero e).symm⟩
  | succ fuel ih =>
      rw [Decimal.trim.go]
      split
      · rename_i zero_behind
        obtain ⟨same, low, high⟩ := ih (n / 10) (e + 1)
        have tens : (n : ℚ) = (n / 10 : Nat) * 10 := by
          exact_mod_cast (Nat.div_mul_cancel (Nat.dvd_of_mod_eq_zero zero_behind.2)).symm
        refine ⟨?_, by omega, by push_cast; omega⟩
        rw [same, tens, zpow_add₀ (by norm_num : (10 : ℚ) ≠ 0), zpow_one]
        ring
      · exact ⟨rfl, le_refl _, by push_cast; omega⟩

theorem grids_spec (canonical : IsCanonical m q) (greatest : q ≤ 971) :
    ∃ top : Int, -330 ≤ top ∧ top ≤ 370 ∧ (10 : ℚ) ^ (top - 1) ≤ m * 2 ^ q ∧
      (Rounding.of m q).grids = (List.range 17).map fun (i : Nat) => top - 1 - (i : Int) := by
  obtain ⟨-, -, value⟩ := quarters canonical
  obtain ⟨low, high⟩ := value_bounds canonical greatest
  rw [← value] at low high ⊢
  obtain ⟨first, last, below, -⟩ := magnitude_spec (-330) 700 low high
  exact ⟨_, first, last, below, rfl⟩

theorem firstHit_spec (canonical : IsCanonical m q) (greatest : q ≤ 971) :
    ∃ d, (Rounding.of m q).firstHit (Rounding.of m q).grids = some d ∧
      RoundsTo (d.digits * 10 ^ d.exponent) m q ∧ -347 ≤ d.exponent ∧ d.exponent ≤ 369 := by
  obtain ⟨top, first, last, below, grids⟩ := grids_spec canonical greatest
  -- The last grid has a hit, so there is a first one.
  have found : ((Rounding.of m q).firstHit (Rounding.of m q).grids).isSome := by
    rw [Rounding.firstHit, List.findSome?_isSome_iff]
    refine ⟨top - 1 - (16 : Nat), ?_, ?_⟩
    · rw [grids]
      exact List.mem_map.mpr ⟨16, by decide, rfl⟩
    · rw [Option.isSome_map]
      refine gridHit_isSome canonical ?_
      rwa [show top - 1 - ((16 : Nat) : Int) + 16 = top - 1 by omega]
  obtain ⟨d, hit⟩ := Option.isSome_iff_exists.mp found
  refine ⟨d, hit, ?_⟩
  obtain ⟨e, on_grid, at_grid⟩ := List.exists_of_findSome?_eq_some hit
  obtain ⟨n, read, rfl⟩ := Option.map_eq_some_iff.mp at_grid
  rw [grids] at on_grid
  obtain ⟨i, few, rfl⟩ := List.mem_map.mp on_grid
  have few := List.mem_range.mp few
  exact ⟨roundsTo_of_hit canonical read, by simp only; omega, by simp only; omega⟩

theorem shortest_spec (canonical : IsCanonical m q) (greatest : q ≤ 971) :
    let d := shortest m q
    RoundsTo (d.digits * 10 ^ d.exponent) m q ∧ d.exponent.natAbs ≤ 400 := by
  obtain ⟨d, hit, rounds, low, high⟩ := firstHit_spec canonical greatest
  have trimmed : shortest m q = Decimal.trim.go d.digits d.exponent 20 := by
    simp only [shortest, hit, Option.elim_some]
  obtain ⟨same, least, most⟩ := Decimal.trim_spec d.digits d.exponent 20
  simp only [trimmed]
  refine ⟨?_, by omega⟩
  rw [same]
  exact rounds

/-! ## Floats read back -/

theorem decimalFloat_of_writes {y : Float} {negative : Bool}
    (finite : Parts.ofFloat y = .finite negative m q) {n : Numeral} (proper : n.Proper)
    (writes : n.Writes (decimalOf m q)) :
    decimalFloat negative (n.whole ++ n.fraction) (n.exponent - n.fraction.length) = y := by
  obtain ⟨k, value, place, few⟩ := writes
  have digits : ∀ c ∈ n.whole ++ n.fraction, isDigit c = true := fun c hc =>
    (List.mem_append.mp hc).elim (proper.whole.digits c) (proper.fraction c)
  by_cases zero : m = 0
  · subst zero
    have none : digitsValue (n.whole ++ n.fraction) = 0 := value.trans (Nat.zero_mul _)
    rw [decimalFloat_zero digits none, eq_zero finite]
  · obtain ⟨canonical, greatest, rfl⟩ := eq_ofParts finite (Nat.pos_of_ne_zero zero)
    obtain ⟨rounds, bound⟩ := shortest_spec canonical greatest
    rw [decimalOf, if_neg zero] at value place few
    refine decimalFloat_eq digits (by omega) canonical greatest ?_ negative
    have same : (digitsValue (n.whole ++ n.fraction) : ℚ) *
        10 ^ (n.exponent - (n.fraction.length : Int)) =
          (shortest m q).digits * 10 ^ (shortest m q).exponent := by
      rw [value, place, zpow_sub₀ (by norm_num), zpow_natCast]
      push_cast
      field_simp
    rwa [same]

end TacticalDesign.Number
