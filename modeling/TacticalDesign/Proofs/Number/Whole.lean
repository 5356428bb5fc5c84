import TacticalDesign.Number.Value
import TacticalDesign.Proofs.Number.Conversion
import TacticalDesign.Proofs.Number.Exact
import TacticalDesign.Proofs.Number.FloatOrder
/-!
# Whole numbers as floats

A whole number is converted to the float that it rounds to. There is one up to half the way from the
largest float to the next power of two; from there on a whole number is beyond the largest float.
-/

namespace TacticalDesign.Number

open Float.Model Float.Model.UnpackedFloat

/-! ## The mantissa of a whole number -/

theorem even_roundDiv {num den : Nat} (pos : 0 < den)
    (middle : 2 * num = 2 * (roundDiv num den * den) + den ∨
      2 * num + den = 2 * (roundDiv num den * den)) : roundDiv num den % 2 = 0 := by
  have parts := Nat.div_add_mod' num den
  have rest := Nat.mod_lt num pos
  have up : (num / den + 1) * den = num / den * den + den := Nat.succ_mul _ _
  unfold roundDiv at middle ⊢
  simp only at middle ⊢
  split at middle
  · omega
  · split at middle
    · omega
    · rename_i low high
      rw [if_neg low, if_neg high]
      omega

/-- A whole number that has 53 bits in units of `2 ^ k`, with its rounded quotient. The quotient may
be rounded up to one bit more. -/
structure Rounded (n k r : Nat) : Prop where
  low : 2 ^ 52 * 2 ^ k ≤ n
  high : n < 2 ^ 53 * 2 ^ k
  above : 2 * n ≤ 2 * (r * 2 ^ k) + 2 ^ k
  below : 2 * (r * 2 ^ k) ≤ 2 * n + 2 ^ k
  even : 2 * n = 2 * (r * 2 ^ k) + 2 ^ k ∨ 2 * n + 2 ^ k = 2 * (r * 2 ^ k) → r % 2 = 0
  first : 2 ^ 52 ≤ r
  last : r ≤ 2 ^ 53

theorem exists_rounded {n : Nat} (large : 2 ^ 53 ≤ n) : ∃ k r, Rounded n k r := by
  have pos : n ≠ 0 := by omega
  have log_large : 53 ≤ n.log2 := (Nat.le_log2 pos).mpr large
  obtain ⟨k, hk⟩ : ∃ k, n.log2 = 52 + k := ⟨n.log2 - 52, by omega⟩
  have unit : 0 < 2 ^ k := Nat.two_pow_pos k
  have low : 2 ^ 52 * 2 ^ k ≤ n := by
    rw [← Nat.pow_add, ← hk]
    exact Nat.log2_self_le pos
  have high : n < 2 ^ 53 * 2 ^ k := by
    rw [← Nat.pow_add, show 53 + k = n.log2 + 1 by omega]
    exact Nat.lt_log2_self
  obtain ⟨above, below⟩ := roundDiv_bounds n unit
  refine ⟨k, roundDiv n (2 ^ k), low, high, above, below, even_roundDiv unit, ?_, ?_⟩
  · by_contra less
    have short := Nat.mul_le_mul_right (2 ^ k)
      (show roundDiv n (2 ^ k) + 1 ≤ 2 ^ 52 by omega)
    rw [Nat.succ_mul] at short
    omega
  · by_contra more
    have long := Nat.mul_le_mul_right (2 ^ k)
      (show 2 ^ 53 + 1 ≤ roundDiv n (2 ^ k) by omega)
    rw [Nat.succ_mul] at long
    omega

namespace Rounded

variable {n k r : Nat}

theorem unit_eq (k : Nat) : (2 : ℚ) ^ (k : Int) = (2 ^ k : Nat) := by
  rw [zpow_natCast]
  push_cast
  rfl

theorem canonical (h : Rounded n k r) (fits : r < 2 ^ 53) : IsCanonical r k :=
  ⟨lt_of_lt_of_le (by decide) h.first, fits, by omega, Or.inl h.first⟩

theorem roundsTo (h : Rounded n k r) (fits : r < 2 ^ 53) : RoundsTo n r k := by
  have above : 2 * (n : ℚ) ≤ 2 * (r * (2 ^ k : Nat)) + (2 ^ k : Nat) := by exact_mod_cast h.above
  have below : 2 * ((r : ℚ) * (2 ^ k : Nat)) ≤ 2 * n + (2 ^ k : Nat) := by exact_mod_cast h.below
  have low : (2 ^ 52 * (2 ^ k : Nat) : ℚ) ≤ n := by exact_mod_cast h.low
  have unit : (0 : ℚ) < (2 ^ k : Nat) := by exact_mod_cast Nat.two_pow_pos k
  rw [roundsTo_iff, unit_eq]
  by_cases least : r = 2 ^ 52
  · subst least
    have quarter : reach (2 ^ 52) k = 1 / 4 := if_pos ⟨rfl, by omega⟩
    push_cast at above low unit
    rw [quarter]
    refine ⟨?_, ?_, fun _ => rfl⟩ <;> push_cast <;> linarith
  · have half : reach r k = 1 / 2 := if_neg fun h => least h.1
    rw [half]
    refine ⟨by linarith, by linarith, fun middle => h.even ?_⟩
    rcases middle with lower | upper
    · refine Or.inr ?_
      have tie : (2 * n + (2 ^ k : Nat) : ℚ) = 2 * (r * (2 ^ k : Nat)) := by rw [lower]; ring
      exact_mod_cast tie
    · refine Or.inl ?_
      have tie : (2 * n : ℚ) = 2 * (r * (2 ^ k : Nat)) + (2 ^ k : Nat) := by rw [upper]; ring
      exact_mod_cast tie

theorem roundsTo_carried (h : Rounded n k (2 ^ 53)) : RoundsTo n (2 ^ 52) ((k : Int) + 1) := by
  have below : 2 * ((2 ^ 53 : ℚ) * (2 ^ k : Nat)) ≤ 2 * n + (2 ^ k : Nat) := by
    exact_mod_cast h.below
  have high : (n : ℚ) < 2 ^ 53 * (2 ^ k : Nat) := by exact_mod_cast h.high
  have quarter : reach (2 ^ 52) ((k : Int) + 1) = 1 / 4 := if_pos ⟨rfl, by omega⟩
  rw [roundsTo_iff, quarter, twoPow_add, unit_eq]
  refine ⟨?_, ?_, fun _ => rfl⟩ <;> push_cast at below high ⊢ <;> linarith

end Rounded

/-! ## The largest float -/

/-- Half the way from the greatest mantissa to the next power of two, in units of `2 ^ (e + 1)`. -/
@[irreducible]
def middleAbove (e : Nat) : Nat := (2 ^ 54 - 1) * 2 ^ e

theorem middleAbove_add (e : Nat) : middleAbove e + 2 ^ e = 2 ^ 54 * 2 ^ e := by
  rw [middleAbove, Nat.sub_mul, Nat.one_mul,
    Nat.sub_add_cancel (Nat.le_mul_of_pos_left _ (by norm_num))]

theorem middleAbove_mono {e k : Nat} (h : k ≤ e) : middleAbove k ≤ middleAbove e := by
  rw [middleAbove, middleAbove]
  exact Nat.mul_le_mul_left _ (Nat.pow_le_pow_right two_pos h)

theorem middleAbove_succ (e : Nat) : middleAbove (e + 1) = 2 * middleAbove e := by
  rw [middleAbove, middleAbove, pow_succ' 2 e]
  exact Nat.mul_left_comm _ _ _

namespace Rounded

variable {n k r e : Nat}

theorem le_iff_lt_middleAbove (h : Rounded n k r) (fits : r < 2 ^ 53) :
    k ≤ e + 1 ↔ n < middleAbove e := by
  have unit : 0 < 2 ^ k := Nat.two_pow_pos k
  have whole : (r + 1) * 2 ^ k ≤ 2 ^ 53 * 2 ^ k := Nat.mul_le_mul_right _ fits
  rw [Nat.succ_mul] at whole
  have top := middleAbove_add k
  have above := h.above
  have low := h.low
  constructor
  · intro inside
    have limit := middleAbove_mono inside
    rw [middleAbove_succ] at limit
    by_contra beyond
    -- only the middle above the greatest mantissa is left, which is odd
    have full : (r + 1) * 2 ^ k = 2 ^ 53 * 2 ^ k := by
      rw [Nat.succ_mul]
      omega
    have odd : r + 1 = 2 ^ 53 := Nat.eq_of_mul_eq_mul_right unit full
    have even := h.even (Or.inl (by omega))
    omega
  · intro inside
    by_contra outside
    have limit := middleAbove_mono (show e + 1 + 1 ≤ k by omega)
    rw [middleAbove_succ, middleAbove_succ] at limit
    omega

theorem lt_iff_lt_middleAbove (h : Rounded n k (2 ^ 53)) : k ≤ e ↔ n < middleAbove e := by
  have top := middleAbove_add k
  have unit : 0 < 2 ^ k := Nat.two_pow_pos k
  constructor
  · intro inside
    have limit := middleAbove_mono (show k ≤ e from inside)
    have high := h.high
    omega
  · intro inside
    by_contra outside
    have limit := middleAbove_mono (show e + 1 ≤ k by omega)
    have below := h.below
    rw [middleAbove_succ] at limit
    omega

end Rounded

/-- Every large whole number rounds to canonical parts, which are those of a float below the limit
only. -/
theorem exists_roundsTo {n : Nat} (large : 2 ^ 53 ≤ n) :
    ∃ m q, ∃ _ : IsCanonical m q, RoundsTo n m q ∧
      ∀ e : Nat, q ≤ e + 1 ↔ n < middleAbove e := by
  obtain ⟨k, r, h⟩ := exists_rounded large
  rcases Nat.lt_or_eq_of_le h.last with fits | rfl
  · refine ⟨r, k, h.canonical fits, h.roundsTo fits, fun e => ?_⟩
    rw [← h.le_iff_lt_middleAbove fits]
    omega
  · refine ⟨2 ^ 52, (k : Int) + 1, ⟨by omega, by omega, by omega, Or.inl (le_refl _)⟩,
      h.roundsTo_carried, fun e => ?_⟩
    rw [← h.lt_iff_lt_middleAbove]
    omega

/-! ## Conversion -/

section

variable (negative : Bool) {m : Nat} {q : Int} (canonical : IsCanonical m q)

theorem unpack_ofParts_of_large (large : 971 < q) :
    (ofParts negative canonical).toModel.unpack = .infinity (signOf negative) := by
  have packed : UnpackedFloat.pack .binary64 (.finite (signOf negative) m q canonical.pos) =
      packedInfinity .binary64 (signOf negative) := by
    have beyond : 2 ^ Format.binary64.exponentBits ≤ (q + Format.binary64.exponentBias +
        Format.binary64.mantissaBitsWithoutImplicit).toNat + 1 := by
      show 2048 ≤ (q + ((2 ^ (11 - 1) - 1 : Nat) : Int) + (52 : Nat)).toNat + 1
      omega
    rw [UnpackedFloat.pack]
    exact if_pos beyond
  show UnpackedFloat.unpack .binary64 (UnpackedFloat.pack .binary64
    (.finite (signOf negative) m q canonical.pos)) = _
  rw [packed]
  cases negative <;> rfl

theorem isInf_ofParts : (ofParts negative canonical).isInf = false ↔ q ≤ 971 := by
  show (ofParts negative canonical).toModel.unpack.isInf = false ↔ _
  rcases lt_or_ge 971 q with large | greatest
  · rw [unpack_ofParts_of_large negative canonical large]
    exact iff_of_false Bool.true_eq_false_eq_False (by omega)
  · rw [show (ofParts negative canonical).toModel.unpack = _ from
      unpack_pack (signOf negative) canonical greatest]
    exact iff_of_true rfl greatest

theorem isNaN_ofParts : (ofParts negative canonical).isNaN = false := by
  show (ofParts negative canonical).toModel.unpack.isNaN = false
  rcases lt_or_ge 971 q with large | greatest
  · rw [unpack_ofParts_of_large negative canonical large]
    rfl
  · rw [show (ofParts negative canonical).toModel.unpack = _ from
      unpack_pack (signOf negative) canonical greatest]
    rfl

end

/-- From here on whole numbers are beyond the largest float. -/
def wholeLimit : Nat := middleAbove 970

theorem exists_ofScientific {n : Nat} (pos : 0 < n) :
    ∃ m q, ∃ canonical : IsCanonical m q, Float.ofScientific n false 0 = ofParts false canonical ∧
      (q ≤ 971 ↔ n < wholeLimit) := by
  have read : ∀ {m q} (canonical : IsCanonical m q), RoundsTo n m q →
      Float.ofScientific n false 0 = ofParts false canonical := by
    intro m q canonical rounds
    refine ofScientific_eq pos (e := 0) (by decide) canonical ?_
    rwa [zpow_zero, mul_one]
  rcases Nat.lt_or_ge n (2 ^ 53) with small | large
  · obtain ⟨m, q, canonical, greatest, -, -, value⟩ := toFloat_eq pos small
    refine ⟨m, q, canonical, read canonical (value ▸ roundsTo_self m q),
      iff_of_true greatest ?_⟩
    have limit := middleAbove_mono (Nat.zero_le 970)
    have least := middleAbove_add 0
    rw [wholeLimit]
    omega
  · obtain ⟨m, q, canonical, rounds, greatest⟩ := exists_roundsTo large
    exact ⟨m, q, canonical, read canonical rounds, greatest 970⟩

theorem toFloat?_int (i : Int) : (Number.int i).toFloat? =
    if (Float.ofScientific i.natAbs false 0).isInf then none
    else some (if i < 0 then -Float.ofScientific i.natAbs false 0
      else Float.ofScientific i.natAbs false 0) := rfl

theorem toFloat?_int_eq_none_iff (i : Int) :
    (Number.int i).toFloat? = none ↔ wholeLimit ≤ i.natAbs := by
  rw [toFloat?_int]
  rcases Nat.eq_zero_or_pos i.natAbs with zero | pos
  · have least := middleAbove_mono (Nat.zero_le 970)
    have add := middleAbove_add 0
    have finite : (Float.ofScientific 0 false 0).isInf = false := by decide +kernel
    rw [zero, finite]
    refine iff_of_false nofun ?_
    rw [wholeLimit]
    omega
  · obtain ⟨m, q, canonical, read, greatest⟩ := exists_ofScientific pos
    rw [read, ← Nat.not_lt, ← greatest, ← isInf_ofParts false canonical]
    cases (ofParts false canonical).isInf <;> simp

/-- The least whole number that rounds beyond the largest float, and the one before it. -/
example : (Number.int (2 ^ 1024 - 2 ^ 970)).toFloat?.isNone = true ∧
    (Number.int (2 ^ 1024 - 2 ^ 970 - 1)).toFloat?.isSome = true := by
  decide +kernel

theorem isNaN_of_toFloat?_int {i : Int} {x : Float} (h : (Number.int i).toFloat? = some x) :
    x.isNaN = false := by
  rw [toFloat?_int] at h
  split at h
  · cases h
  rename_i finite
  obtain rfl := Option.some.inj h
  rcases Nat.eq_zero_or_pos i.natAbs with zero | pos
  · rw [zero]
    split <;> decide +kernel
  · obtain ⟨m, q, canonical, read, greatest⟩ := exists_ofScientific pos
    rw [read, Bool.not_eq_true, isInf_ofParts] at finite
    rw [read, ofParts_neg canonical finite]
    split <;> exact isNaN_ofParts _ canonical

theorem parts_of_isNaN {x : Float} (h : x.isNaN = true) : Parts.ofFloat x = .nan := by
  cases parts : Parts.ofFloat x with
  | nan => rfl
  | infinite negative =>
      rw [eq_infinite parts] at h
      cases negative <;> exact absurd h (by decide +kernel)
  | finite negative m q =>
      rcases Nat.eq_zero_or_pos m with rfl | pos
      · rw [eq_zero parts] at h
        cases negative <;> exact absurd h (by decide +kernel)
      · obtain ⟨canonical, -, rfl⟩ := eq_ofParts parts pos
        rw [isNaN_ofParts] at h
        cases h

end TacticalDesign.Number
