import Mathlib.Algebra.Order.Field.Power
import Mathlib.Tactic.FieldSimp
import Mathlib.Tactic.Linarith
import Mathlib.Tactic.NormNum
import Mathlib.Tactic.Positivity
import Mathlib.Tactic.Ring
/-!
# Rounding

Rounding to floats, in rational numbers. A float above zero has canonical parts, and the rationals
that round to it lie around it, nearer than half the way to its neighbours, the ends included when
the mantissa is even. Arithmetic on floats carries two bits behind the mantissa, which say enough to
end at those parts.
-/

namespace TacticalDesign.Number

open Float.Model Float.Model.UnpackedFloat

/-- A mantissa and an exponent as a float above zero has them: 53 bits, fewer only at the least
exponent. -/
structure IsCanonical (m : Nat) (q : Int) : Prop where
  pos : 0 < m
  fits : m < 2 ^ 53
  least : -1074 ≤ q
  full : 2 ^ 52 ≤ m ∨ q = -1074

/-- How far the reals that round to `m * 2 ^ q` reach below it, in units of `2 ^ q`: half a unit, a
quarter where the floats below are twice as dense. -/
def reach (m : Nat) (q : Int) : ℚ := if m = 2 ^ 52 ∧ -1074 < q then 1 / 4 else 1 / 2

/-- Whether a rational rounds to `m * 2 ^ q`, halves to the even neighbour. -/
structure RoundsTo (x : ℚ) (m : Nat) (q : Int) : Prop where
  below : m - reach m q ≤ x / 2 ^ q
  above : x / 2 ^ q ≤ m + 1 / 2
  even : x / 2 ^ q = m - reach m q ∨ x / 2 ^ q = m + 1 / 2 → m % 2 = 0

variable {x : ℚ} {m : Nat} {q : Int}

theorem reach_pos (m : Nat) (q : Int) : 0 < reach m q := by
  unfold reach
  split <;> norm_num

theorem reach_le (m : Nat) (q : Int) : reach m q ≤ 1 / 2 := by
  unfold reach
  split <;> norm_num

theorem twoPow_add (q r : Int) : (2 : ℚ) ^ (q + r) = 2 ^ q * 2 ^ r :=
  zpow_add₀ (by norm_num) q r

theorem twoPow_pos (q : Int) : (0 : ℚ) < 2 ^ q := zpow_pos (by norm_num) q

theorem tenPow_pos (e : Int) : (0 : ℚ) < 10 ^ e := zpow_pos (by norm_num) e

theorem roundsTo_iff : RoundsTo x m q ↔
    (m - reach m q) * 2 ^ q ≤ x ∧ x ≤ (m + 1 / 2) * 2 ^ q ∧
      (x = (m - reach m q) * 2 ^ q ∨ x = (m + 1 / 2) * 2 ^ q → m % 2 = 0) := by
  have unit := twoPow_pos q
  constructor
  · rintro ⟨below, above, even⟩
    rw [le_div_iff₀ unit] at below
    rw [div_le_iff₀ unit] at above
    rw [div_eq_iff unit.ne', div_eq_iff unit.ne'] at even
    exact ⟨below, above, even⟩
  · rintro ⟨below, above, even⟩
    rw [← le_div_iff₀ unit] at below
    rw [← div_le_iff₀ unit] at above
    rw [← div_eq_iff unit.ne', ← div_eq_iff unit.ne'] at even
    exact ⟨below, above, even⟩

theorem roundsTo_self (m : Nat) (q : Int) : RoundsTo (m * 2 ^ q) m q := by
  have same : (m : ℚ) * 2 ^ q / 2 ^ q = m := mul_div_cancel_right₀ _ (twoPow_pos q).ne'
  have positive := reach_pos m q
  refine ⟨?_, ?_, ?_⟩
  · linarith
  · linarith
  · rw [same]
    rintro (lower | upper) <;> linarith

theorem value_bounds (canonical : IsCanonical m q) (greatest : q ≤ 971) :
    (10 : ℚ) ^ (-331 : Int) ≤ m * 2 ^ q ∧ (m : ℚ) * 2 ^ q < 10 ^ (370 : Int) := by
  have one : (1 : ℚ) ≤ m := by exact_mod_cast canonical.pos
  have fits : (m : ℚ) < 2 ^ 53 := by exact_mod_cast canonical.fits
  have least : (2 : ℚ) ^ (-1074 : Int) ≤ 2 ^ q := zpow_le_zpow_right₀ (by norm_num) canonical.least
  have most : (2 : ℚ) ^ q ≤ 2 ^ (971 : Int) := zpow_le_zpow_right₀ (by norm_num) greatest
  have smallest : (2 ^ 1074 : ℚ) ≤ 10 ^ 331 := by
    exact_mod_cast (by decide +kernel : 2 ^ 1074 ≤ 10 ^ 331)
  have largest : (2 ^ 53 * 2 ^ 971 : ℚ) < 10 ^ 370 := by
    exact_mod_cast (by decide +kernel : 2 ^ 53 * 2 ^ 971 < 10 ^ 370)
  constructor
  · calc (10 : ℚ) ^ (-331 : Int) ≤ 2 ^ (-1074 : Int) :=
          inv_anti₀ (by positivity) smallest
      _ ≤ 2 ^ q := least
      _ ≤ m * 2 ^ q := le_mul_of_one_le_left (twoPow_pos q).le one
  · calc (m : ℚ) * 2 ^ q ≤ m * 2 ^ (971 : Int) := mul_le_mul_of_nonneg_left most (by positivity)
      _ < 2 ^ 53 * 2 ^ (971 : Int) := mul_lt_mul_of_pos_right fits (by positivity)
      _ < 10 ^ (370 : Int) := largest

theorem RoundsTo.bounds (rounds : RoundsTo x m q) (canonical : IsCanonical m q)
    (greatest : q ≤ 971) : (10 : ℚ) ^ (-332 : Int) ≤ x ∧ x < 10 ^ (371 : Int) := by
  obtain ⟨low, high⟩ := value_bounds canonical greatest
  obtain ⟨below, above, -⟩ := roundsTo_iff.mp rounds
  have unit := twoPow_pos q
  have one : (1 : ℚ) ≤ m := by exact_mod_cast canonical.pos
  have half : (1 / 2 : ℚ) * (m * 2 ^ q) ≤ (m - reach m q) * 2 ^ q := by
    rw [← mul_assoc]
    exact mul_le_mul_of_nonneg_right (by linarith [reach_le m q]) unit.le
  have twice : ((m : ℚ) + 1 / 2) * 2 ^ q ≤ 2 * (m * 2 ^ q) := by
    rw [← mul_assoc]
    exact mul_le_mul_of_nonneg_right (by linarith) unit.le
  have smaller : (10 : ℚ) ^ (-331 : Int) = 10 ^ (-332 : Int) * 10 := by
    rw [← zpow_add_one₀ (by norm_num)]
    norm_num
  have larger : (10 : ℚ) ^ (371 : Int) = 10 ^ (370 : Int) * 10 := by
    rw [← zpow_add_one₀ (by norm_num)]
    norm_num
  have positive : (0 : ℚ) < m * 2 ^ q := mul_pos (by linarith) unit
  have least := tenPow_pos (-332)
  constructor
  · calc (10 : ℚ) ^ (-332 : Int) ≤ 1 / 2 * 10 ^ (-331 : Int) := by rw [smaller]; linarith
      _ ≤ 1 / 2 * (m * 2 ^ q) := mul_le_mul_of_nonneg_left low (by norm_num)
      _ ≤ x := half.trans below
  · calc x ≤ 2 * (m * 2 ^ q) := above.trans twice
      _ ≤ m * 2 ^ q * 10 := by linarith
      _ < 10 ^ (370 : Int) * 10 := mul_lt_mul_of_pos_right high (by norm_num)
      _ = 10 ^ (371 : Int) := larger.symm

/-! ## Residual bits -/

/-- What a mantissa with its two residual bits says about a rational: by the first bit whether the
half above the mantissa is reached, by the second whether something is left beyond. -/
def Denotes (em : ExtendedMantissa) (y : ℚ) : Prop :=
  match em.roundBit, em.stickyBit with
  | false, false => y = em.mantissa
  | false, true => em.mantissa < y ∧ y < em.mantissa + 1 / 2
  | true, false => y = em.mantissa + 1 / 2
  | true, true => em.mantissa + 1 / 2 < y ∧ y < em.mantissa + 1

theorem denotes_exact (m : Nat) : Denotes (.ofMantissaAndAccuracy m .exact) m := rfl

theorem denotes_fraction (m : Nat) {num den : Nat} (proper : num < den) :
    Denotes (.ofMantissaAndAccuracy m (accuracyOfFraction num den)) (m + num / den) := by
  have pos : (0 : ℚ) < den := by exact_mod_cast Nat.zero_lt_of_lt proper
  rw [accuracyOfFraction]
  split
  · rename_i zero
    subst zero
    simp [Denotes, ExtendedMantissa.ofMantissaAndAccuracy]
  · rename_i some_left
    have above : (0 : ℚ) < num / den := by
      have : (0 : ℚ) < num := by exact_mod_cast Nat.pos_of_ne_zero some_left
      positivity
    have below : (num : ℚ) / den < 1 := (div_lt_one pos).mpr (by exact_mod_cast proper)
    cases half : compare (2 * num) den with
    | lt =>
        have less : (2 : ℚ) * num < den := by exact_mod_cast compare_lt_iff_lt.mp half
        have : (num : ℚ) / den < 1 / 2 := by
          rw [div_lt_iff₀ pos]
          linarith
        exact ⟨by show (m : ℚ) < _; linarith, by show _ < (m : ℚ) + 1 / 2; linarith⟩
    | eq =>
        have same : (2 : ℚ) * num = den := by exact_mod_cast compare_eq_iff_eq.mp half
        have : (num : ℚ) / den = 1 / 2 := by
          rw [div_eq_iff pos.ne']
          linarith
        exact congrArg ((m : ℚ) + ·) this
    | gt =>
        have more : (den : ℚ) < 2 * num := by exact_mod_cast compare_gt_iff_gt.mp half
        have : 1 / 2 < (num : ℚ) / den := by
          rw [lt_div_iff₀ pos]
          linarith
        exact ⟨by show (m : ℚ) + 1 / 2 < _; linarith, by show _ < (m : ℚ) + 1; linarith⟩

theorem denotes_shiftRightOne {em : ExtendedMantissa} {y : ℚ} (h : Denotes em y) :
    Denotes em.shiftRightOne (y / 2) := by
  obtain ⟨m, r, s⟩ := em
  obtain ⟨k, rfl | rfl⟩ := Nat.even_or_odd' m
  · have floor : 2 * k / 2 = k := by omega
    have last : (2 * k % 2 != 0) = false := by simp
    cases r <;> cases s <;> simp only [Denotes, ExtendedMantissa.shiftRightOne, floor, last,
      Bool.or_false, Bool.or_true, Nat.cast_mul, Nat.cast_ofNat] at h ⊢
    · linarith
    · exact ⟨by linarith, by linarith⟩
    · exact ⟨by linarith, by linarith⟩
    · exact ⟨by linarith, by linarith⟩
  · have floor : (2 * k + 1) / 2 = k := by omega
    have last : ((2 * k + 1) % 2 != 0) = true := by simp
    cases r <;> cases s <;> simp only [Denotes, ExtendedMantissa.shiftRightOne, floor, last,
      Bool.or_false, Bool.or_true, Nat.cast_add, Nat.cast_mul, Nat.cast_ofNat, Nat.cast_one] at h ⊢
    · linarith
    · exact ⟨by linarith, by linarith⟩
    · exact ⟨by linarith, by linarith⟩
    · exact ⟨by linarith, by linarith⟩

theorem denotes_shiftRight {em : ExtendedMantissa} {y : ℚ} (h : Denotes em y) (n : Nat) :
    Denotes (em >>> n) (y / 2 ^ n) := by
  induction n with
  | zero =>
      rw [pow_zero, div_one]
      exact h
  | succ n ih =>
      have halved := denotes_shiftRightOne ih
      rw [div_div, ← pow_succ] at halved
      exact halved

/-- Rounding gives the whole number that is nearest, at a half the even one. -/
theorem roundedMantissa_eq {em : ExtendedMantissa} {y : ℚ} (h : Denotes em y) {m : Nat}
    (below : (m : ℚ) - 1 / 2 ≤ y) (above : y ≤ m + 1 / 2)
    (even : y = m - 1 / 2 ∨ y = m + 1 / 2 → m % 2 = 0) : em.roundedMantissa = m := by
  obtain ⟨n, r, s⟩ := em
  cases r <;> cases s <;> simp only [Denotes] at h <;>
    simp only [ExtendedMantissa.roundedMantissa, ExtendedMantissa.accuracy,
      Accuracy.roundToNearestEven]
  · have low : (m : ℚ) < n + 1 := by linarith
    have high : (n : ℚ) < m + 1 := by linarith
    norm_cast at low high
    omega
  · have low : (m : ℚ) < n + 1 := by linarith
    have high : (n : ℚ) < m + 1 := by linarith
    norm_cast at low high
    omega
  · have low : (m : ℚ) ≤ n + 1 := by linarith
    have high : (n : ℚ) ≤ m := by linarith
    norm_cast at low high
    rcases Nat.lt_or_ge n m with less | more
    · have same : m = n + 1 := by omega
      have parity := even (Or.inl (by rw [h, same]; push_cast; ring))
      omega
    · have same : m = n := by omega
      have parity := even (Or.inr (by rw [h, same]))
      omega
  · have low : (m : ℚ) < n + 2 := by linarith
    have high : (n : ℚ) < m := by linarith
    norm_cast at low high
    omega

theorem Denotes.floor {em : ExtendedMantissa} {y : ℚ} (h : Denotes em y) : em.mantissa ≤ y := by
  obtain ⟨m, r, s⟩ := em
  cases r <;> cases s <;> simp only [Denotes] at h ⊢
  · exact h.ge
  · exact h.1.le
  · linarith
  · linarith

theorem Denotes.ceil {em : ExtendedMantissa} {y : ℚ} (h : Denotes em y) :
    y < em.mantissa + 1 := by
  obtain ⟨m, r, s⟩ := em
  cases r <;> cases s <;> simp only [Denotes] at h ⊢
  · linarith
  · linarith
  · linarith
  · exact h.2

/-! ## Scales -/

theorem div_twoPow_lt_iff {x : ℚ} {q r : Int} : x / 2 ^ q < 2 ^ r ↔ x < 2 ^ (q + r) := by
  rw [div_lt_iff₀ (twoPow_pos q), twoPow_add, mul_comm]

theorem le_div_twoPow_iff {x : ℚ} {q r : Int} : 2 ^ r ≤ x / 2 ^ q ↔ 2 ^ (q + r) ≤ x := by
  rw [le_div_iff₀ (twoPow_pos q), twoPow_add, mul_comm]

/-- The exponent at which a rational above zero has a mantissa of 53 bits, or the least one. -/
structure HasScale (x : ℚ) (t : Int) : Prop where
  least : -1074 ≤ t
  below : x < 2 ^ (t + 53)
  full : t = -1074 ∨ 2 ^ (t + 52) ≤ x

theorem HasScale.le_of {x : ℚ} {t t' : Int} (h : HasScale x t) (h' : HasScale x t') : t' ≤ t := by
  rcases h'.full with least | full
  · exact least ▸ h.least
  · have between : (2 : ℚ) ^ (t' + 52) < 2 ^ (t + 53) := lt_of_le_of_lt full h.below
    have exponents := (zpow_lt_zpow_iff_right₀ (by norm_num : (1 : ℚ) < 2)).mp between
    omega

theorem HasScale.unique {x : ℚ} {t t' : Int} (h : HasScale x t) (h' : HasScale x t') : t = t' :=
  le_antisymm (h'.le_of h) (h.le_of h')

def target (m : Nat) (e : Int) : Int := Format.binary64.targetExponent (totalExponent m e)

theorem target_eq (m : Nat) (e : Int) : target m e = max (m.log2 + 1 + e - 53) (-1074) := rfl

theorem hasScale_target {x : ℚ} {m : Nat} {e : Int} (floor : m ≤ x / 2 ^ e)
    (ceil : x / 2 ^ e < m + 1) (small : e ≤ target m e) : HasScale x (target m e) where
  least := by
    rw [target_eq]
    omega
  below := by
    have bits : m + 1 ≤ 2 ^ (m.log2 + 1) := Nat.lt_log2_self
    have fits : x / 2 ^ e < 2 ^ ((m.log2 + 1 : Nat) : Int) := by
      rw [zpow_natCast]
      exact lt_of_lt_of_le ceil (by exact_mod_cast bits)
    have larger : e + ((m.log2 + 1 : Nat) : Int) ≤ target m e + 53 := by
      rw [target_eq]
      push_cast
      omega
    exact lt_of_lt_of_le (div_twoPow_lt_iff.mp fits) (zpow_le_zpow_right₀ (by norm_num) larger)
  full := by
    by_cases least : target m e = -1074
    · exact Or.inl least
    · refine Or.inr ?_
      have exponent : target m e + 52 = e + (m.log2 : Int) := by
        rw [target_eq] at least ⊢
        omega
      -- Without bits the exponent would be below the least one.
      have some_bits : m ≠ 0 := by
        rintro rfl
        rw [target_eq] at small least
        simp only [Nat.log2_zero] at small least
        omega
      have bits : (2 : ℚ) ^ (m.log2 : Int) ≤ x / 2 ^ e := by
        rw [zpow_natCast]
        exact le_trans (by exact_mod_cast Nat.log2_self_le some_bits) floor
      rw [exponent]
      exact le_div_twoPow_iff.mp bits

/-! ## Rounded mantissas -/

theorem IsCanonical.target_eq (h : IsCanonical m q) : target m q = q := by
  obtain ⟨pos, fits, least, full⟩ := h
  have bits : m.log2 < 53 := (Nat.log2_lt pos.ne').mpr fits
  rw [Number.target_eq]
  rcases full with full | rfl
  · have more : 52 ≤ m.log2 := (Nat.le_log2 pos.ne').mpr full
    omega
  · omega

theorem shift_exact {t : Int} (k : Nat) (exponent : target m q = t) (shift : t = q + k) :
    shiftToTargetExponent .binary64 m q .exact =
      (ExtendedMantissa.ofMantissaAndAccuracy m .exact >>> k, t) := by
  have amount : (Format.binary64.targetExponent (totalExponent m q) - q).toNat = k := by
    have same : Format.binary64.targetExponent (totalExponent m q) = t := exponent
    omega
  rw [shiftToTargetExponent, shiftToExponent, amount, shift]

/-- A rational that rounds to canonical parts has their exponent, or lies just below the least
mantissa of 53 bits and has the exponent before. -/
theorem RoundsTo.hasScale (rounds : RoundsTo x m q) (canonical : IsCanonical m q) :
    HasScale x q ∨ (m = 2 ^ 52 ∧ x / 2 ^ q < 2 ^ 52 ∧ HasScale x (q - 1)) := by
  have fits : (m : ℚ) + 1 ≤ 2 ^ 53 := by exact_mod_cast canonical.fits
  have below : x < 2 ^ (q + 53) := by
    refine div_twoPow_lt_iff.mp ?_
    have bound : x / 2 ^ q < (2 : ℚ) ^ 53 := by linarith [rounds.above]
    exact_mod_cast bound
  by_cases full : (2 : ℚ) ^ 52 ≤ x / 2 ^ q
  · have reached : (2 : ℚ) ^ (q + 52) ≤ x := le_div_twoPow_iff.mp (by exact_mod_cast full)
    exact Or.inl ⟨canonical.least, below, Or.inr reached⟩
  · push Not at full
    by_cases least : q = -1074
    · exact Or.inl ⟨canonical.least, below, Or.inl least⟩
    · have enough : 2 ^ 52 ≤ m := canonical.full.resolve_right least
      have above_least : -1074 < q := lt_of_le_of_ne canonical.least (Ne.symm least)
      -- A larger mantissa reaches down to no less than its predecessor.
      have same : m = 2 ^ 52 := by
        refine le_antisymm (Nat.le_of_not_lt fun more => ?_) enough
        have next : (2 : ℚ) ^ 52 + 1 ≤ m := by exact_mod_cast more
        linarith [rounds.below, reach_le m q]
      have low : (2 : ℚ) ^ 51 ≤ x / 2 ^ q := by
        have quarter := reach_le m q
        have mantissa : (m : ℚ) = 2 ^ 52 := by exact_mod_cast same
        linarith [rounds.below]
      refine Or.inr ⟨same, full, by omega, ?_, Or.inr ?_⟩
      · refine div_twoPow_lt_iff.mp ?_ |>.trans_eq (congrArg _ (by omega : q + 52 = q - 1 + 53))
        exact_mod_cast full
      · have reached : (2 : ℚ) ^ (q + 51) ≤ x := le_div_twoPow_iff.mp (by exact_mod_cast low)
        rwa [show q - 1 + 52 = q + 51 by omega]

theorem RoundsTo.mantissa_eq {em : ExtendedMantissa} (rounds : RoundsTo x m q)
    (denotes : Denotes em (x / 2 ^ q)) : em.roundedMantissa = m := by
  have half := reach_le m q
  refine roundedMantissa_eq denotes (by linarith [rounds.below]) rounds.above ?_
  rintro (lower | upper)
  · -- Half a unit below is within reach only where the reach ends there.
    refine rounds.even (Or.inl ?_)
    linarith [rounds.below]
  · exact rounds.even (Or.inr upper)

/-- At the exponent before, where the mantissa has twice as many units, it is rounded up to one bit
too many. -/
theorem RoundsTo.carried_mantissa_eq {em : ExtendedMantissa} (rounds : RoundsTo x (2 ^ 52) q)
    (above_least : -1074 < q) (low : x / 2 ^ q < 2 ^ 52) (denotes : Denotes em (x / 2 ^ (q - 1))) :
    em.roundedMantissa = 2 ^ 53 := by
  have quarter : reach (2 ^ 52) q = 1 / 4 := if_pos ⟨rfl, above_least⟩
  have doubled : x / 2 ^ (q - 1) = 2 * (x / 2 ^ q) := by
    rw [zpow_sub₀ (by norm_num), zpow_one]
    field_simp
  have bound := rounds.below
  rw [quarter] at bound
  push_cast at bound
  refine roundedMantissa_eq denotes ?_ ?_ fun _ => by norm_num
  · rw [doubled]
    push_cast
    linarith
  · rw [doubled]
    push_cast
    linarith

/-- Rounding a rational, given by a mantissa and its residual bits, ends at the canonical parts that
the rational rounds to. -/
theorem roundWithAccuracy_eq {sign : Sign} {n : Nat} {e : Int} {accuracy : Accuracy}
    (denotes : Denotes (.ofMantissaAndAccuracy n accuracy) (x / 2 ^ e)) (small : e ≤ target n e)
    (canonical : IsCanonical m q) (rounds : RoundsTo x m q) :
    roundWithAccuracy .binary64 sign n e accuracy = .finite sign m q canonical.pos := by
  have mantissa : (ExtendedMantissa.ofMantissaAndAccuracy n accuracy).mantissa = n := by
    rcases accuracy with _ | (_ | _ | _) <;> rfl
  have scale : HasScale x (target n e) :=
    hasScale_target (mantissa ▸ denotes.floor) (mantissa ▸ denotes.ceil) small
  obtain ⟨k, shift⟩ : ∃ k : Nat, target n e = e + k := ⟨(target n e - e).toNat, by omega⟩
  have amount : (Format.binary64.targetExponent (totalExponent n e) - e).toNat = k := by
    have same : Format.binary64.targetExponent (totalExponent n e) = e + k := shift
    omega
  have first := denotes_shiftRight denotes k
  rw [div_div, ← zpow_natCast, ← twoPow_add, ← shift] at first
  rw [roundWithAccuracy, shiftToTargetExponent, shiftToExponent, amount, ← shift]
  dsimp only
  rcases rounds.hasScale canonical with same | ⟨rfl, low, before⟩
  · rw [scale.unique same] at first ⊢
    rw [rounds.mantissa_eq first, shift_exact 0 canonical.target_eq (by omega)]
    exact dif_neg canonical.pos.ne'
  · rw [scale.unique before] at first ⊢
    have least := before.least
    -- The mantissa has one bit too many, so it is shifted once more.
    have bits : Nat.log2 (2 ^ 53) = 53 := Nat.log2_two_pow
    have carried : target (2 ^ 53) (q - 1) = q := by
      rw [target_eq, bits]
      omega
    rw [rounds.carried_mantissa_eq (by omega) low first, shift_exact 1 carried (by omega)]
    rfl

theorem IsCanonical.round_exact (canonical : IsCanonical m q) (sign : Sign) :
    roundWithAccuracy .binary64 sign m q .exact = .finite sign m q canonical.pos := by
  have denotes : Denotes (.ofMantissaAndAccuracy m .exact) (m * 2 ^ q / 2 ^ q : ℚ) := by
    rw [mul_div_cancel_right₀ _ (twoPow_pos q).ne']
    exact denotes_exact m
  exact roundWithAccuracy_eq denotes canonical.target_eq.ge canonical (roundsTo_self m q)

end TacticalDesign.Number
