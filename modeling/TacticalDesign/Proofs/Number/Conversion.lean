import TacticalDesign.Proofs.Number.Numerals
import TacticalDesign.Proofs.Number.Packing
/-!
# Decimals as floats

Products and quotients of floats are rounded once. A decimal is therefore read as the float that it
rounds to, whether its digits and its power of ten are floats themselves or not.
-/

namespace TacticalDesign.Number

open Float.Model Float.Model.UnpackedFloat

variable {x : ℚ} {m : Nat} {q : Int}

/-! ## Products and quotients -/

theorem mul_eq {s₁ s₂ : Sign} {m₁ m₂ : Nat} {e₁ e₂ : Int} (pos₁ : 0 < m₁) (pos₂ : 0 < m₂)
    (value : x = m₁ * 2 ^ e₁ * (m₂ * 2 ^ e₂)) (bits : 2 ^ 52 ≤ m₁ * m₂)
    (canonical : IsCanonical m q) (rounds : RoundsTo x m q) :
    UnpackedFloat.mul .binary64 (.finite s₁ m₁ e₁ pos₁) (.finite s₂ m₂ e₂ pos₂) =
      .finite (s₁ * s₂) m q canonical.pos := by
  have scaled : x / 2 ^ (e₁ + e₂) = ((m₁ * m₂ : Nat) : ℚ) := by
    rw [div_eq_iff (twoPow_pos _).ne', value, twoPow_add]
    push_cast
    ring
  refine roundWithAccuracy_eq (scaled ▸ denotes_exact (m₁ * m₂)) ?_ canonical rounds
  have enough : 52 ≤ (m₁ * m₂).log2 := (Nat.le_log2 (Nat.mul_pos pos₁ pos₂).ne').mpr bits
  rw [target_eq]
  omega

/-- A quotient at an exponent is a whole quotient, with what is left over as a fraction. -/
theorem div_scaled {m₁ m₂ k : Nat} {e₁ e₂ e : Int} (pos₂ : 0 < m₂) (shift : e₁ - e₂ = e + k) :
    (m₁ * 2 ^ e₁ / (m₂ * 2 ^ e₂) : ℚ) / 2 ^ e =
      (m₁ <<< k / m₂ : Nat) + ((m₁ <<< k % m₂ : Nat) : ℚ) / m₂ := by
  have positive : (0 : ℚ) < m₂ := by exact_mod_cast pos₂
  have unit := twoPow_pos e
  have unit₂ := twoPow_pos e₂
  have exponent : (2 : ℚ) ^ e₁ = 2 ^ e₂ * 2 ^ e * 2 ^ (k : Int) := by
    rw [← twoPow_add, ← twoPow_add]
    congr 1
    omega
  have shifted : ((m₁ <<< k : Nat) : ℚ) = m₁ * 2 ^ (k : Int) := by
    rw [zpow_natCast]
    exact_mod_cast Nat.shiftLeft_eq m₁ k
  have parts : ((m₁ <<< k : Nat) : ℚ) = m₂ * (m₁ <<< k / m₂ : Nat) + (m₁ <<< k % m₂ : Nat) := by
    exact_mod_cast (Nat.div_add_mod (m₁ <<< k) m₂).symm
  calc (m₁ * 2 ^ e₁ / (m₂ * 2 ^ e₂) : ℚ) / 2 ^ e = (m₁ <<< k : Nat) / m₂ := by
        rw [exponent, shifted]
        field_simp
    _ = (m₁ <<< k / m₂ : Nat) + ((m₁ <<< k % m₂ : Nat) : ℚ) / m₂ := by
        rw [parts]
        field_simp

theorem le_shiftLeft_div {m₁ m₂ k : Nat} (pos₁ : 0 < m₁) (pos₂ : 0 < m₂)
    (enough : 52 + (m₂.log2 + 1) ≤ m₁.log2 + k) : 2 ^ 52 ≤ m₁ <<< k / m₂ := by
  have divisor : m₂ < 2 ^ (m₂.log2 + 1) := Nat.lt_log2_self
  have dividend : 2 ^ m₁.log2 ≤ m₁ := Nat.log2_self_le pos₁.ne'
  rw [Nat.le_div_iff_mul_le pos₂]
  calc 2 ^ 52 * m₂ ≤ 2 ^ 52 * 2 ^ (m₂.log2 + 1) := Nat.mul_le_mul_left _ divisor.le
    _ = 2 ^ (52 + (m₂.log2 + 1)) := (Nat.pow_add 2 52 _).symm
    _ ≤ 2 ^ (m₁.log2 + k) := Nat.pow_le_pow_right (by decide) enough
    _ = 2 ^ m₁.log2 * 2 ^ k := Nat.pow_add 2 _ k
    _ ≤ m₁ * 2 ^ k := Nat.mul_le_mul_right _ dividend
    _ = m₁ <<< k := (Nat.shiftLeft_eq m₁ k).symm

theorem div_eq {s₁ s₂ : Sign} {m₁ m₂ : Nat} {e₁ e₂ : Int} (pos₁ : 0 < m₁) (pos₂ : 0 < m₂)
    (value : x = m₁ * 2 ^ e₁ / (m₂ * 2 ^ e₂))
    (canonical : IsCanonical m q) (rounds : RoundsTo x m q) :
    UnpackedFloat.div .binary64 (.finite s₁ m₁ e₁ pos₁) (.finite s₂ m₂ e₂ pos₂) =
      .finite (s₁ / s₂) m q canonical.pos := by
  let e : Int := min (e₁ - e₂) (max (m₁.log2 + 1 + e₁ - (m₂.log2 + 1 + e₂) - 53) (-1074))
  obtain ⟨k, shift⟩ : ∃ k : Nat, e₁ - e₂ = e + k := ⟨(e₁ - e₂ - e).toNat, by omega⟩
  have divided : UnpackedFloat.div .binary64 (.finite s₁ m₁ e₁ pos₁) (.finite s₂ m₂ e₂ pos₂) =
      roundWithAccuracy .binary64 (s₁ / s₂) (m₁ <<< k / m₂) e
        (accuracyOfFraction (m₁ <<< k % m₂) m₂) := by
    have amount : (e₁ - e₂ - e).toNat = k := by omega
    show roundWithAccuracy .binary64 (s₁ / s₂) (m₁ <<< (e₁ - e₂ - e).toNat / m₂) e
      (accuracyOfFraction (m₁ <<< (e₁ - e₂ - e).toNat % m₂) m₂) = _
    rw [amount]
  have denotes := denotes_fraction (m₁ <<< k / m₂) (Nat.mod_lt (m₁ <<< k) pos₂)
  rw [← div_scaled pos₂ shift, ← value] at denotes
  rw [divided]
  refine roundWithAccuracy_eq denotes ?_ canonical rounds
  -- The quotient has at least 53 bits, or the exponent is no greater than the least one.
  rw [target_eq]
  by_cases least : e ≤ -1074
  · omega
  · have many : 2 ^ 52 ≤ m₁ <<< k / m₂ := le_shiftLeft_div pos₁ pos₂ (by omega)
    have enough : 52 ≤ (m₁ <<< k / m₂).log2 :=
      (Nat.le_log2 (Nat.lt_of_lt_of_le (by decide) many).ne').mpr many
    omega

theorem ofParts_mul {m₁ m₂ : Nat} {q₁ q₂ : Int} (c₁ : IsCanonical m₁ q₁) (c₂ : IsCanonical m₂ q₂)
    (greatest₁ : q₁ ≤ 971) (greatest₂ : q₂ ≤ 971) (bits : 2 ^ 52 ≤ m₁ * m₂)
    (canonical : IsCanonical m q) (rounds : RoundsTo (m₁ * 2 ^ q₁ * (m₂ * 2 ^ q₂)) m q) :
    ofParts false c₁ * ofParts false c₂ = ofParts false canonical := by
  show Float.ofModel (.pack (UnpackedFloat.mul .binary64 (Float.Model.pack _).unpack
    (Float.Model.pack _).unpack)) = _
  rw [unpack_pack _ c₁ greatest₁, unpack_pack _ c₂ greatest₂,
    mul_eq c₁.pos c₂.pos rfl bits canonical rounds]
  rfl

theorem ofParts_div {m₁ m₂ : Nat} {q₁ q₂ : Int} (c₁ : IsCanonical m₁ q₁) (c₂ : IsCanonical m₂ q₂)
    (greatest₁ : q₁ ≤ 971) (greatest₂ : q₂ ≤ 971)
    (canonical : IsCanonical m q) (rounds : RoundsTo (m₁ * 2 ^ q₁ / (m₂ * 2 ^ q₂)) m q) :
    ofParts false c₁ / ofParts false c₂ = ofParts false canonical := by
  show Float.ofModel (.pack (UnpackedFloat.div .binary64 (Float.Model.pack _).unpack
    (Float.Model.pack _).unpack)) = _
  rw [unpack_pack _ c₁ greatest₁, unpack_pack _ c₂ greatest₂,
    div_eq c₁.pos c₂.pos rfl canonical rounds]
  rfl

theorem ofParts_neg (canonical : IsCanonical m q) (greatest : q ≤ 971) :
    -ofParts false canonical = ofParts true canonical := by
  show Float.ofModel (.pack (Float.Model.pack _).unpack.neg) = _
  rw [unpack_pack _ canonical greatest]
  rfl

/-! ## Decimals -/

theorem powers_exact (e : Fin Float.exactlyRepresentablePowersOfTen.size) :
    Parts.ofFloat Float.exactlyRepresentablePowersOfTen[e] =
        .finite false (10 ^ e.val * 2 ^ 52 / 2 ^ (10 ^ e.val).log2) ((10 ^ e.val).log2 - 52) ∧
      10 ^ e.val * 2 ^ 52 / 2 ^ (10 ^ e.val).log2 * 2 ^ (10 ^ e.val).log2 =
        10 ^ e.val * 2 ^ 52 ∧
      2 ^ 52 ≤ 10 ^ e.val * 2 ^ 52 / 2 ^ (10 ^ e.val).log2 := by
  revert e
  decide +kernel

theorem exists_shiftLeft {n : Nat} (pos : 0 < n) (fits : n < 2 ^ 53) :
    ∃ k, n.log2 + k = 52 ∧ 2 ^ 52 ≤ n <<< k ∧ n <<< k < 2 ^ 53 := by
  have bits : n.log2 < 53 := (Nat.log2_lt pos.ne').mpr fits
  obtain ⟨k, shift⟩ : ∃ k, n.log2 + k = 52 := ⟨52 - n.log2, by omega⟩
  refine ⟨k, shift, ?_, ?_⟩
  · calc 2 ^ 52 = 2 ^ n.log2 * 2 ^ k := by rw [← shift, Nat.pow_add]
      _ ≤ n * 2 ^ k := Nat.mul_le_mul_right _ (Nat.log2_self_le pos.ne')
      _ = n <<< k := (Nat.shiftLeft_eq n k).symm
  · calc n <<< k = n * 2 ^ k := Nat.shiftLeft_eq n k
      _ < 2 ^ (n.log2 + 1) * 2 ^ k :=
        Nat.mul_lt_mul_of_pos_right Nat.lt_log2_self (Nat.two_pow_pos k)
      _ = 2 ^ (n.log2 + 1 + k) := (Nat.pow_add 2 _ k).symm
      _ = 2 ^ 53 := by congr 1; omega

theorem toFloat_eq {n : Nat} (pos : 0 < n) (fits : n < 2 ^ 53) :
    ∃ (m : Nat) (q : Int) (canonical : IsCanonical m q), q ≤ 971 ∧ 2 ^ 52 ≤ m ∧
      n.toUInt64.toFloat = ofParts false canonical ∧ (m : ℚ) * 2 ^ q = n := by
  obtain ⟨k, shift, enough, below⟩ := exists_shiftLeft pos fits
  have canonical : IsCanonical (n <<< k) (-k) :=
    ⟨Nat.lt_of_lt_of_le (by decide) enough, below, by omega, Or.inl enough⟩
  have value : ((n <<< k : Nat) : ℚ) * 2 ^ (-k : Int) = n := by
    rw [Nat.shiftLeft_eq, zpow_neg, zpow_natCast]
    push_cast
    field_simp
  have word : n.toUInt64.toNat = n := by
    show n % 2 ^ 64 = n
    exact Nat.mod_eq_of_lt (by omega)
  have unpacked : UnpackedFloat.ofUInt64 .binary64 n.toUInt64 =
      roundWithAccuracy .binary64 .positive (n <<< k) (-k) .exact := by
    have positive : compare (n : Int) 0 = .gt := compare_gt_iff_gt.mpr (by omega)
    have amount : (0 - target n 0).toNat = k := by
      rw [target_eq]
      omega
    rw [UnpackedFloat.ofUInt64, word, UnpackedFloat.ofNat, UnpackedFloat.ofInt,
      UnpackedFloat.normalize, positive]
    show roundWithAccuracy .binary64 .positive (n <<< (0 - target n 0).toNat)
      (0 - ((0 - target n 0).toNat : Int)) .exact = _
    rw [amount, Int.zero_sub]
  refine ⟨n <<< k, -k, canonical, by omega, enough, ?_, value⟩
  show Float.ofModel (.pack (UnpackedFloat.ofUInt64 .binary64 n.toUInt64)) = _
  rw [unpacked, canonical.round_exact]
  rfl

theorem power_eq {e : Nat} (inside : e < Float.exactlyRepresentablePowersOfTen.size) :
    ∃ (m : Nat) (q : Int) (canonical : IsCanonical m q), q ≤ 971 ∧ 2 ^ 52 ≤ m ∧
      Float.exactlyRepresentablePowersOfTen[e] = ofParts false canonical ∧
      (m : ℚ) * 2 ^ q = 10 ^ e := by
  obtain ⟨parts, exact, enough⟩ := powers_exact ⟨e, inside⟩
  obtain ⟨canonical, greatest, float⟩ := eq_ofParts parts (by omega)
  refine ⟨_, _, canonical, greatest, enough, float, ?_⟩
  have product : ((10 ^ e * 2 ^ 52 / 2 ^ (10 ^ e).log2 : Nat) : ℚ) * 2 ^ (10 ^ e).log2 =
      10 ^ e * 2 ^ 52 := by exact_mod_cast exact
  rw [zpow_sub₀ (by norm_num), zpow_natCast, ← mul_div_assoc, product]
  norm_num

theorem ten_zpow_of_nonneg {e : Int} (h : 0 ≤ e) : (10 : ℚ) ^ e = 10 ^ e.toNat := by
  rw [← zpow_natCast, Int.toNat_of_nonneg h]

theorem ten_zpow_of_neg {e : Int} (h : e < 0) : (10 : ℚ) ^ e = 1 / 10 ^ (-e).toNat := by
  rw [← zpow_natCast, Int.toNat_of_nonneg (by omega), zpow_neg, one_div, inv_inv]

/-- Numbers that a float does not hold exactly are converted by one rounding. -/
theorem unpacked_ofScientific {n : Nat} (pos : 0 < n) {e : Int} (small : e.natAbs ≤ 2048)
    (canonical : IsCanonical m q) (rounds : RoundsTo (n * 10 ^ e) m q) :
    UnpackedFloat.ofScientific .binary64 n e = .finite .positive m q canonical.pos := by
  have limit : (2 : Int) ^ Format.binary64.exponentBits = 2048 := rfl
  have digits : Format.binary64.mantissaBits = 53 := rfl
  rw [UnpackedFloat.ofScientific, dif_neg pos.ne', limit, if_neg (by omega), if_neg (by omega)]
  split
  · rename_i nonneg
    have ten : 0 < 10 ^ e.toNat := Nat.pow_pos (by decide)
    have shifted : n <<< 53 = n * 2 ^ 53 := Nat.shiftLeft_eq n 53
    have more : 0 < n <<< 53 := by omega
    have bits : 2 ^ 52 ≤ n <<< 53 * 10 ^ e.toNat :=
      le_trans (by omega) (Nat.le_mul_of_pos_right _ ten)
    have value : (n : ℚ) * (10 : ℚ) ^ e =
        ((n <<< 53 : Nat) : ℚ) * 2 ^ (-53 : Int) * ((10 ^ e.toNat : Nat) * 2 ^ (0 : Int)) := by
      rw [ten_zpow_of_nonneg nonneg, shifted, zpow_neg]
      push_cast
      field_simp
    exact mul_eq more ten value bits canonical rounds
  · rename_i negative
    have ten : 0 < 10 ^ (-e).toNat := Nat.pow_pos (by decide)
    have value : (n : ℚ) * (10 : ℚ) ^ e =
        n * 2 ^ (0 : Int) / ((10 ^ (-e).toNat : Nat) * 2 ^ (0 : Int)) := by
      rw [ten_zpow_of_neg (by omega)]
      push_cast
      field_simp
    exact div_eq pos ten value canonical rounds

theorem ofScientific_eq {n : Nat} (pos : 0 < n) {e : Int} (small : e.natAbs ≤ 2048)
    (canonical : IsCanonical m q) (rounds : RoundsTo (n * 10 ^ e) m q) :
    Float.ofScientific n (decide (e < 0)) e.natAbs = ofParts false canonical := by
  unfold Float.ofScientific
  split
  · rename_i exact
    obtain ⟨m₁, q₁, c₁, greatest₁, enough₁, float₁, value₁⟩ := toFloat_eq pos exact.1
    have inside : e.natAbs < Float.exactlyRepresentablePowersOfTen.size :=
      Nat.lt_succ_of_le exact.2
    obtain ⟨m₂, q₂, c₂, greatest₂, -, float₂, value₂⟩ := power_eq inside
    simp only [float₁, float₂]
    by_cases negative : e < 0
    · rw [if_pos (decide_eq_true negative)]
      refine ofParts_div c₁ c₂ greatest₁ greatest₂ canonical ?_
      have abs : e.natAbs = (-e).toNat := by omega
      rwa [value₁, value₂, abs, ← mul_one_div, ← ten_zpow_of_neg negative]
    · rw [if_neg (by simpa using negative)]
      have bits : 2 ^ 52 ≤ m₁ * m₂ := le_trans enough₁ (Nat.le_mul_of_pos_right m₁ c₂.pos)
      refine ofParts_mul c₁ c₂ greatest₁ greatest₂ bits canonical ?_
      have abs : e.natAbs = e.toNat := by omega
      rwa [value₁, value₂, abs, ← ten_zpow_of_nonneg (by omega)]
  · have exponent : (if decide (e < 0) = true then Int.negOfNat e.natAbs else Int.ofNat e.natAbs) =
        e := by
      simp only [Int.negOfNat_eq, Int.ofNat_eq_natCast, decide_eq_true_eq]
      split <;> omega
    have unpacked := unpacked_ofScientific pos small canonical rounds
    simp only [exponent]
    rw [Float.Model.ofScientific, unpacked]
    rfl

theorem digits_bounds {ds rest : List Char} {c : Char} (digits : ∀ c ∈ ds, isDigit c = true)
    (front : ds.dropWhile (· = '0') = c :: rest) (e : Int) :
    (10 : ℚ) ^ ((rest.length : Int) + e) ≤ digitsValue ds * 10 ^ e ∧
      (digitsValue ds : ℚ) * 10 ^ e < 10 ^ ((rest.length : Int) + 1 + e) := by
  obtain ⟨digit, lead⟩ := lead_of_dropWhile digits front
  have step := tenPow_pos e
  have lower := le_digitsValue rest digit lead
  have upper : digitsValue (c :: rest) < 10 ^ (c :: rest).length :=
    digitsValue_lt fun d hd => digits d (List.dropWhile_subset (· = '0') (front ▸ hd))
  rw [← front, digitsValue_dropWhile] at lower upper
  rw [front, List.length_cons] at upper
  constructor
  · rw [zpow_add₀ (by norm_num), zpow_natCast]
    exact mul_le_mul_of_nonneg_right (by exact_mod_cast lower) step.le
  · rw [zpow_add₀ (by norm_num)]
    exact mul_lt_mul_of_pos_right (by exact_mod_cast upper) step

/-- A text of digits and a power of ten is read as the float that it rounds to. -/
theorem decimalFloat_eq {ds : List Char} (digits : ∀ c ∈ ds, isDigit c = true) {e : Int}
    (small : e.natAbs ≤ 2048) (canonical : IsCanonical m q) (greatest : q ≤ 971)
    (rounds : RoundsTo (digitsValue ds * 10 ^ e) m q) (negative : Bool) :
    decimalFloat negative ds e = ofParts negative canonical := by
  obtain ⟨low, high⟩ := rounds.bounds canonical greatest
  have pos : 0 < digitsValue ds := by
    refine Nat.pos_of_ne_zero fun zero => ?_
    rw [zero, Nat.cast_zero, zero_mul] at low
    exact absurd low (not_le.mpr (tenPow_pos _))
  obtain ⟨c, rest, front⟩ : ∃ c rest, ds.dropWhile (· = '0') = c :: rest := by
    refine List.exists_cons_of_ne_nil fun none => ?_
    have value := digitsValue_dropWhile ds
    rw [none] at value
    exact pos.ne value
  -- Digits that round to a float are not so many that they would be read as infinite or as zero.
  obtain ⟨lower, upper⟩ := digits_bounds digits front e
  have ten : (1 : ℚ) < 10 := by norm_num
  have short := (zpow_lt_zpow_iff_right₀ ten).mp (lt_of_le_of_lt lower high)
  have long := (zpow_lt_zpow_iff_right₀ ten).mp (lt_of_le_of_lt low upper)
  have magnitude : (if (ds.dropWhile (· = '0')).isEmpty then (0 : Float)
      else if 400 < ((ds.dropWhile (· = '0')).length : Int) + e then Float.ofScientific 1 false 400
      else if ((ds.dropWhile (· = '0')).length : Int) + e < -400 then 0
      else Float.ofScientific (digitsValue (ds.dropWhile (· = '0'))) (e < 0) e.natAbs) =
        ofParts false canonical := by
    rw [digitsValue_dropWhile, front, List.length_cons]
    push_cast
    rw [if_neg (by simp), if_neg (by omega), if_neg (by omega)]
    exact ofScientific_eq pos small canonical rounds
  show (if negative then -(_ : Float) else _) = _
  rw [magnitude]
  cases negative with
  | false => rfl
  | true => exact ofParts_neg canonical greatest

theorem decimalFloat_zero {ds : List Char} (digits : ∀ c ∈ ds, isDigit c = true)
    (zero : digitsValue ds = 0) (e : Int) (negative : Bool) :
    decimalFloat negative ds e = if negative then -0 else 0 := by
  have none : ds.dropWhile (· = '0') = [] := by
    by_contra some_left
    obtain ⟨c, rest, front⟩ := List.exists_cons_of_ne_nil some_left
    obtain ⟨digit, lead⟩ := lead_of_dropWhile digits front
    have positive := le_digitsValue rest digit lead
    rw [← front, digitsValue_dropWhile, zero] at positive
    exact absurd (Nat.pow_pos (by decide)) (Nat.not_lt.mpr positive)
  simp only [decimalFloat, none, List.isEmpty_nil, if_true]

end TacticalDesign.Number
