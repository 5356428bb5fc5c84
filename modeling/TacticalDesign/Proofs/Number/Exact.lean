import TacticalDesign.Proofs.Number.Packing
import TacticalDesign.Vote
/-!
# Exact values

The value of a number as a fraction, and how it is rounded to four decimal places. Rounding goes to
a nearest value, so it keeps the order of values and leaves a value of four places as it is.
-/

namespace TacticalDesign

namespace Number

/-! ## Signs -/

/-- The exact value; zero for floats that are no numbers. -/
def exact (n : Number) : ℚ := Vote.ofNumber n

theorem exact_eq (n : Number) : n.exact = n.toRat?.getD 0 := rfl

theorem below_zero {x : Float} {m : Nat} {q : Int} (h : Parts.ofFloat x = .finite true m q)
    (pos : 0 < m) : x < 0 ∧ ¬0 < x := by
  obtain ⟨canonical, greatest, rfl⟩ := eq_ofParts h pos
  have unpacked := unpack_pack .negative canonical greatest
  have zero : (0 : Float).toModel.unpack = .zero .positive := by with_unfolding_all rfl
  have below : Float.lt (ofParts true canonical) 0 = true := by
    show decide ((Float.Model.lt (.pack (.finite .negative m q canonical.pos)) _) = true) = true
    rw [Float.Model.lt, unpacked, zero]
    rfl
  have not_above : Float.lt 0 (ofParts true canonical) = false := by
    show decide ((Float.Model.lt _ (.pack (.finite .negative m q canonical.pos))) = true) = false
    rw [Float.Model.lt, unpacked, zero]
    rfl
  exact ⟨below, fun above => Bool.false_ne_true (not_above.symm.trans above)⟩

/-- The exact value of parts is their mantissa times a power of two, under their sign. -/
theorem Parts.toRat?_finite (negative : Bool) (m : Nat) (q : Int) :
    (Parts.finite negative m q).toRat? =
      some (if negative then -((m : ℚ) * 2 ^ q) else (m : ℚ) * 2 ^ q) := by
  have magnitude : (if 0 ≤ q then Rat.ofInt (m * twoTo q.toNat : Nat)
      else mkRat m (twoTo (-q).toNat)) = (m : ℚ) * 2 ^ q := by
    split
    · rename_i whole
      obtain ⟨k, rfl⟩ := Int.eq_ofNat_of_zero_le whole
      show ((m * 2 ^ k : Nat) : ℚ) = _
      push_cast
      rw [zpow_natCast]
    · rename_i fractional
      obtain ⟨k, hk⟩ := Int.eq_ofNat_of_zero_le (show 0 ≤ -q by omega)
      obtain rfl : q = -(k : Int) := by omega
      rw [Rat.mkRat_eq_div, Int.neg_neg, zpow_neg, zpow_natCast]
      show (m : ℚ) / ((2 ^ k : Nat) : ℚ) = _
      push_cast
      rw [div_eq_mul_inv]
  simp only [Parts.toRat?, magnitude]

theorem exact_float_nonneg {x : Float}
    (sign : ∀ m q, Parts.ofFloat x = .finite true m q → m = 0) : 0 ≤ (Number.float x).exact := by
  have value : (Number.float x).exact = (Parts.ofFloat x).toRat?.getD 0 := rfl
  rw [value]
  cases parts : Parts.ofFloat x with
  | nan => exact le_refl 0
  | infinite negative => exact le_refl 0
  | finite negative m q =>
      have magnitude : (0 : ℚ) ≤ m * 2 ^ q := mul_nonneg m.cast_nonneg (zpow_nonneg (by norm_num) q)
      rw [Parts.toRat?_finite, Option.getD_some]
      cases negative with
      | false => exact magnitude
      | true =>
          rw [sign m q parts]
          simp

theorem exact_nonneg_of_not_lt {x : Float} (h : ¬x < 0) : 0 ≤ (Number.float x).exact :=
  exact_float_nonneg fun _ _ parts =>
    Nat.eq_zero_of_not_pos fun pos => h (below_zero parts pos).1

theorem exact_nonneg_of_lt {x : Float} (h : 0 < x) : 0 ≤ (Number.float x).exact :=
  exact_float_nonneg fun _ _ parts =>
    Nat.eq_zero_of_not_pos fun pos => (below_zero parts pos).2 h

theorem exact_nonneg_of_isPositive {n : Number} (h : n.isPositive = true) : 0 ≤ n.exact := by
  cases n with
  | int i =>
      have pos : 0 < i := of_decide_eq_true h
      exact Int.cast_nonneg pos.le
  | float x => exact exact_nonneg_of_lt (of_decide_eq_true h)

theorem toRat?_of_isFinite {n : Number} (h : n.isFinite = true) : n.toRat? = some n.exact := by
  cases n with
  | int i => rfl
  | float x =>
      obtain ⟨negative, m, q, parts⟩ := finite_of_isFinite (h : x.isFinite = true)
      have value : (Number.float x).toRat? = (Parts.finite negative m q).toRat? :=
        congrArg Parts.toRat? parts
      rw [exact_eq, value, Parts.toRat?_finite]
      rfl

/-! ## Rounding -/

theorem roundDiv_bounds (num : Nat) {den : Nat} (pos : 0 < den) :
    2 * num ≤ 2 * (roundDiv num den * den) + den ∧
      2 * (roundDiv num den * den) ≤ 2 * num + den := by
  have parts := Nat.div_add_mod' num den
  have rest := Nat.mod_lt num pos
  have up : (num / den + 1) * den = num / den * den + den := Nat.succ_mul _ _
  unfold roundDiv
  simp only
  split
  · omega
  · split
    · omega
    · rcases Nat.mod_two_eq_zero_or_one (num / den) with even | odd
      · rw [even, Nat.add_zero]
        omega
      · rw [odd]
        omega

theorem roundDiv_near (num : Nat) {den : Nat} (pos : 0 < den) :
    |(roundDiv num den : ℚ) - num / den| ≤ 1 / 2 := by
  have positive : (0 : ℚ) < den := Nat.cast_pos.mpr pos
  obtain ⟨low, high⟩ := roundDiv_bounds num pos
  have low' : 2 * (num : ℚ) ≤ 2 * (roundDiv num den * den) + den := by exact_mod_cast low
  have high' : 2 * ((roundDiv num den : ℚ) * den) ≤ 2 * num + den := by exact_mod_cast high
  rw [abs_le]
  constructor
  · rw [le_sub_iff_add_le, ← sub_eq_neg_add, sub_le_iff_le_add, div_le_iff₀ positive]
    linarith
  · rw [sub_le_iff_le_add, ← sub_le_iff_le_add', le_div_iff₀ positive]
    linarith

end Number

namespace Vote

theorem roundRat_near (q : ℚ) : |(roundRat q : ℚ) - q| ≤ 1 / 2 := by
  have near := Number.roundDiv_near q.num.natAbs q.den_pos
  have value : (q.num : ℚ) / q.den = q := Rat.num_div_den q
  unfold roundRat
  simp only
  split
  · rename_i negative
    have magnitude : (q.num.natAbs : ℚ) / q.den = -q := by
      rw [← neg_eq_iff_eq_neg, ← neg_div, ← Int.cast_natCast,
        Int.ofNat_natAbs_of_nonpos negative.le, Int.cast_neg, neg_neg, value]
    rw [magnitude, sub_neg_eq_add] at near
    rw [Int.cast_neg, Int.cast_natCast, ← neg_add', abs_neg]
    exact near
  · rename_i nonnegative
    have magnitude : (q.num.natAbs : ℚ) / q.den = q := by
      rw [← Int.cast_natCast, Int.natAbs_of_nonneg (not_lt.mp nonnegative), value]
    rw [magnitude] at near
    exact_mod_cast near

theorem roundRat_mono {p q : ℚ} (h : p ≤ q) : roundRat p ≤ roundRat q := by
  by_contra crossed
  have above : (roundRat q : ℚ) + 1 ≤ roundRat p := by exact_mod_cast not_le.mp crossed
  have near_p := (abs_le.mp (roundRat_near p)).2
  have near_q := (abs_le.mp (roundRat_near q)).1
  have same : p = q := by linarith
  exact crossed (same ▸ le_refl _)

theorem roundRat_intCast (n : ℤ) : roundRat n = n := by
  have near := abs_le.mp (roundRat_near n)
  have low : n < roundRat n + 1 := by
    have : (n : ℚ) < roundRat n + 1 := by linarith
    exact_mod_cast this
  have high : roundRat n < n + 1 := by
    have : (roundRat n : ℚ) < n + 1 := by linarith
    exact_mod_cast this
  omega

/-- How many of the least parts of a rounded vote make one. -/
def unit : ℚ := 10 ^ places

theorem unit_pos : 0 < unit := by norm_num [unit, places]

theorem round_eq (q : ℚ) : (Vote.round q : ℚ) = roundRat (q * unit) / unit := by
  show mkRat (roundRat (q * Rat.ofInt (Number.tenTo places))) (Number.tenTo places) = _
  have tens : ((Number.tenTo places : Nat) : ℚ) = unit := by
    norm_num [Number.tenTo, places, unit]
  have tens' : Rat.ofInt (Number.tenTo places) = unit := tens
  rw [Rat.mkRat_eq_div, tens, tens']

theorem round_mono {p q : ℚ} (h : p ≤ q) : (Vote.round p : ℚ) ≤ Vote.round q := by
  rw [round_eq, round_eq]
  have scaled : p * unit ≤ q * unit := mul_le_mul_of_nonneg_right h unit_pos.le
  have rounded : (roundRat (p * unit) : ℚ) ≤ roundRat (q * unit) := by
    exact_mod_cast roundRat_mono scaled
  exact div_le_div_of_nonneg_right rounded unit_pos.le

/-- A difference of rounded values has four places itself. -/
theorem round_sub_round (p q : ℚ) :
    (Vote.round (Vote.round p - Vote.round q : ℚ) : ℚ) = Vote.round p - Vote.round q := by
  have whole : (Vote.round p - Vote.round q : ℚ) * unit =
      ((roundRat (p * unit) - roundRat (q * unit) : ℤ) : ℚ) := by
    rw [round_eq, round_eq, ← sub_div, div_mul_cancel₀ _ unit_pos.ne']
    push_cast
    rfl
  rw [round_eq (_ - _), whole, roundRat_intCast, ← whole, mul_div_cancel_right₀ _ unit_pos.ne']

theorem round_zero : (Vote.round (0 : ℚ) : ℚ) = 0 := by
  have zero := roundRat_intCast 0
  rw [Int.cast_zero] at zero
  rw [round_eq, zero_mul, zero, Int.cast_zero, zero_div]

theorem round_nonneg {q : ℚ} (h : 0 ≤ q) : (0 : ℚ) ≤ Vote.round q :=
  round_zero ▸ round_mono h

end Vote

end TacticalDesign
