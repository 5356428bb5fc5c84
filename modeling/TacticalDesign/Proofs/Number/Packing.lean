import Mathlib
import TacticalDesign.Number.Parts
import TacticalDesign.Proofs.Number.Rounding
/-!
# Floats from their parts

A float is determined by its parts: canonical parts with a sign are packed into one word and come
out of it again, and there is one word for each zero, each infinity and what is no number.
-/

namespace TacticalDesign.Number

open Float.Model Float.Model.UnpackedFloat

variable {m : Nat} {q : Int}

/-! ## Floats by their bits -/

theorem eq_of_toNat_toBits {x y : Float} (h : x.toBits.toNat = y.toBits.toNat) : x = y :=
  Float.toBits_inj.mp (UInt64.toNat_inj.mp h)

/-! ## Canonical parts in a word -/

def signOf (negative : Bool) : Sign := if negative then .negative else .positive

def ofParts (negative : Bool) {m : Nat} {q : Int} (canonical : IsCanonical m q) : Float :=
  .ofModel (.pack (.finite (signOf negative) m q canonical.pos))

theorem toNat_packComponents (sign : Sign) (e : BitVec 11) (m : BitVec 52) :
    (packComponents .binary64 sign e m).toNat =
      sign.toBitVec.toNat * 2 ^ 63 + e.toNat * 2 ^ 52 + m.toNat := by
  have joined : (packComponents .binary64 sign e m).toNat =
      (sign.toBitVec.toNat <<< 11 ||| e.toNat) <<< 52 ||| m.toNat := by
    rw [packComponents, BitVec.toNat_append, BitVec.toNat_append]
  rw [joined, ← Nat.shiftLeft_add_eq_or_of_lt m.isLt, ← Nat.shiftLeft_add_eq_or_of_lt e.isLt,
    Nat.shiftLeft_eq, Nat.shiftLeft_eq]
  omega

def fields (m : Nat) (q : Int) : Nat × Nat :=
  if m < 2 ^ 52 then (0, m) else ((q + 1075).toNat, m - 2 ^ 52)

theorem fields_lt (canonical : IsCanonical m q) (greatest : q ≤ 971) :
    (fields m q).1 < 2047 ∧ (fields m q).2 < 2 ^ 52 := by
  have fits := canonical.fits
  unfold fields
  split <;> constructor <;> simp only <;> omega

theorem pack_eq (sign : Sign) (canonical : IsCanonical m q) (greatest : q ≤ 971) :
    UnpackedFloat.pack .binary64 (.finite sign m q canonical.pos) =
      packComponents .binary64 sign (BitVec.ofNat 11 (fields m q).1)
        (BitVec.ofNat 52 (fields m q).2) := by
  obtain ⟨pos, fits, least, full⟩ := canonical
  have biased : (q + Format.binary64.exponentBias +
      Format.binary64.mantissaBitsWithoutImplicit).toNat = (q + 1075).toNat := by
    show (q + ((2 ^ (11 - 1) - 1 : Nat) : Int) + (52 : Nat)).toNat = _
    omega
  have bits : Format.binary64.mantissaBits = 53 := rfl
  rw [UnpackedFloat.pack]
  simp only [biased, bits]
  rw [if_neg (by omega)]
  by_cases small : m < 2 ^ 52
  · have few : m.log2 < 52 := (Nat.log2_lt pos.ne').mpr small
    rw [if_neg (by omega), fields, if_pos small]
  · have many : m.log2 = 52 :=
      (Nat.log2_eq_iff pos.ne').mpr ⟨Nat.le_of_not_lt small, fits⟩
    have same : BitVec.ofNat 52 m = BitVec.ofNat 52 (m - 2 ^ 52) := by
      refine BitVec.eq_of_toNat_eq ?_
      simp only [BitVec.toNat_ofNat]
      omega
    rw [if_pos (by omega), fields, if_neg small, same]

theorem toNat_pack (sign : Sign) (canonical : IsCanonical m q) (greatest : q ≤ 971) :
    (UnpackedFloat.pack .binary64 (.finite sign m q canonical.pos)).toNat =
      sign.toBitVec.toNat * 2 ^ 63 + (fields m q).1 * 2 ^ 52 + (fields m q).2 := by
  obtain ⟨exponent, fraction⟩ := fields_lt canonical greatest
  rw [pack_eq sign canonical greatest, toNat_packComponents, BitVec.toNat_ofNat, BitVec.toNat_ofNat,
    Nat.mod_eq_of_lt (lt_trans exponent (by decide)), Nat.mod_eq_of_lt fraction]

/-- What a word stands for, in canonical parts, with the fields of the parts in the word. -/
theorem Parts.ofBits_finite {bits : Nat} (fits : bits < 2 ^ 64) {negative : Bool}
    (h : Parts.ofBits bits = .finite negative m q) (pos : 0 < m) :
    IsCanonical m q ∧ q ≤ 971 ∧
      bits = (signOf negative).toBitVec.toNat * 2 ^ 63 + (fields m q).1 * 2 ^ 52 +
        (fields m q).2 := by
  have sign : (signOf (decide (0x8000000000000000 ≤ bits))).toBitVec.toNat = bits / 2 ^ 63 := by
    by_cases high : 0x8000000000000000 ≤ bits
    · rw [decide_eq_true high]
      show 1 = _
      omega
    · rw [decide_eq_false high]
      show 0 = _
      omega
  have unit : Parts.leadingUnit = 2 ^ 52 := rfl
  simp only [Parts.ofBits, unit] at h
  split at h
  · split at h <;> cases h
  rename_i not_top
  split at h
  · rename_i least
    obtain ⟨rfl, rfl, rfl⟩ := Parts.finite.inj h
    have small : bits % 2 ^ 52 < 2 ^ 52 := Nat.mod_lt _ (by decide)
    refine ⟨⟨pos, by omega, le_refl _, Or.inr rfl⟩, by omega, ?_⟩
    rw [sign, fields, if_pos small]
    simp only
    omega
  · rename_i not_least
    obtain ⟨rfl, rfl, rfl⟩ := Parts.finite.inj h
    have large : ¬2 ^ 52 + bits % 2 ^ 52 < 2 ^ 52 := by omega
    refine ⟨⟨pos, by omega, by omega, Or.inl (by omega)⟩, by omega, ?_⟩
    rw [sign, fields, if_neg large]
    simp only
    omega

theorem eq_ofParts {x : Float} {negative : Bool} (h : Parts.ofFloat x = .finite negative m q)
    (pos : 0 < m) :
    ∃ canonical : IsCanonical m q, q ≤ 971 ∧ x = ofParts negative canonical := by
  obtain ⟨canonical, greatest, bits⟩ := Parts.ofBits_finite x.toBits.toNat_lt h pos
  refine ⟨canonical, greatest, ?_⟩
  have packed := toNat_pack (signOf negative) canonical greatest
  exact eq_of_toNat_toBits (bits.trans packed.symm)

theorem finite_congr (sign : Sign) {m m' : Nat} {q q' : Int} (mantissa : m = m')
    (exponent : q = q') (pos : 0 < m) (pos' : 0 < m') :
    UnpackedFloat.finite sign m q pos = .finite sign m' q' pos' := by
  subst mantissa exponent
  rfl

section

variable (sign : Sign) {e n : Nat} (small : n < 2 ^ 52)
include small

theorem toNat_fraction : (BitVec.ofNat 52 n).toNat = n := by
  rw [BitVec.toNat_ofNat, Nat.mod_eq_of_lt small]

/-- A word with the least exponent field stands for its fraction, whose point is in front. -/
theorem unpack_least (pos : 0 < n) :
    UnpackedFloat.unpack .binary64 (packComponents .binary64 sign 0#11 (BitVec.ofNat 52 n)) =
      .finite sign n (-1074) pos := by
  have not_top : 0#11 ≠ -1#11 := by decide
  have some_fraction : BitVec.ofNat 52 n ≠ 0#52 := by
    intro zero
    have same := congrArg BitVec.toNat zero
    rw [toNat_fraction small] at same
    exact pos.ne' same
  rw [UnpackedFloat.unpack]
  simp only [unpackExponent_packComponents, unpackMantissa_packComponents,
    unpackSign_packComponents, Sign.ofBitVec_toBitVec]
  rw [if_neg not_top, if_pos trivial, dif_neg some_fraction]
  exact finite_congr sign (toNat_fraction small) rfl _ pos

theorem unpack_full (low : 0 < e) (high : e < 2047) :
    UnpackedFloat.unpack .binary64
        (packComponents .binary64 sign (BitVec.ofNat 11 e) (BitVec.ofNat 52 n)) =
      .finite sign (2 ^ 52 + n) (e - 1075) (by omega) := by
  have exponent : (BitVec.ofNat 11 e).toNat = e := by
    rw [BitVec.toNat_ofNat, Nat.mod_eq_of_lt (lt_trans high (by decide))]
  have not_top : BitVec.ofNat 11 e ≠ -1#11 := by
    intro top
    have same : e = 2047 := exponent.symm.trans (congrArg BitVec.toNat top)
    omega
  have not_least : BitVec.ofNat 11 e ≠ 0#11 := by
    intro least
    have same : e = 0 := exponent.symm.trans (congrArg BitVec.toNat least)
    omega
  have mantissa : (1#1 ++ BitVec.ofNat 52 n).toNat = 2 ^ 52 + n := by
    have joined : (1#1 ++ BitVec.ofNat 52 n).toNat = 1 <<< 52 ||| (BitVec.ofNat 52 n).toNat :=
      BitVec.toNat_append _ _
    rw [joined, ← Nat.shiftLeft_add_eq_or_of_lt (BitVec.isLt _), toNat_fraction small,
      Nat.shiftLeft_eq, Nat.one_mul]
  rw [UnpackedFloat.unpack]
  simp only [unpackExponent_packComponents, unpackMantissa_packComponents,
    unpackSign_packComponents, Sign.ofBitVec_toBitVec]
  rw [if_neg not_top, if_neg not_least]
  refine finite_congr sign mantissa ?_ _ (by omega)
  rw [exponent]
  rfl

end

theorem unpack_pack (sign : Sign) (canonical : IsCanonical m q) (greatest : q ≤ 971) :
    (Float.Model.pack (.finite sign m q canonical.pos)).unpack =
      .finite sign m q canonical.pos := by
  have back : (Float.Model.pack (.finite sign m q canonical.pos)).unpack =
      UnpackedFloat.unpack .binary64 (packComponents .binary64 sign
        (BitVec.ofNat 11 (fields m q).1) (BitVec.ofNat 52 (fields m q).2)) := by
    rw [← pack_eq sign canonical greatest]
    rfl
  obtain ⟨pos, fits, least, full⟩ := canonical
  rw [back]
  by_cases small : m < 2 ^ 52
  · have none : fields m q = (0, m) := if_pos small
    rw [none, unpack_least sign small pos]
    exact finite_congr sign rfl (by omega) _ pos
  · have some_field : fields m q = ((q + 1075).toNat, m - 2 ^ 52) := if_neg small
    rw [some_field, unpack_full sign (by omega) (by omega) (by omega)]
    exact finite_congr sign (by omega) (by omega) _ pos

/-! ## Floats without canonical parts -/

theorem toNat_unpackExponent (b : BitVec 64) :
    (@unpackExponent .binary64 b).toNat = b.toNat / 2 ^ 52 % 2 ^ 11 := by
  rw [unpackExponent, BitVec.toNat_cast, BitVec.extractLsb_toNat, Nat.shiftRight_eq_div_pow]
  rfl

theorem toNat_unpackMantissa (b : BitVec 64) :
    (@unpackMantissa .binary64 b).toNat = b.toNat % 2 ^ 52 := by
  rw [unpackMantissa, BitVec.toNat_cast, BitVec.extractLsb_toNat, Nat.shiftRight_zero]
  rfl

theorem eq_nan {x : Float} (h : Parts.ofFloat x = .nan) : x = 0 / 0 := by
  obtain ⟨⟨word, valid⟩⟩ := x
  have unit : Parts.leadingUnit = 2 ^ 52 := rfl
  have bits : Parts.ofBits word.toNat = .nan := h
  simp only [Parts.ofBits, unit] at bits
  split at bits
  · rename_i top
    split at bits
    · cases bits
    rename_i some_fraction
    have exponent : @unpackExponent .binary64 word.toBitVec = -1#11 :=
      BitVec.eq_of_toNat_eq ((toNat_unpackExponent _).trans top)
    have fraction : @unpackMantissa .binary64 word.toBitVec ≠ 0#52 := fun zero =>
      some_fraction ((toNat_unpackMantissa _).symm.trans (congrArg BitVec.toNat zero))
    refine Float.toBits_inj.mp (UInt64.toBitVec_inj.mp ?_)
    exact (valid.eq_packedNaN exponent fraction).trans (by decide +kernel)
  · split at bits <;> cases bits

theorem eq_infinite {x : Float} {negative : Bool} (h : Parts.ofFloat x = .infinite negative) :
    x = if negative then -1 / 0 else 1 / 0 := by
  have fits := x.toBits.toNat_lt
  have unit : Parts.leadingUnit = 2 ^ 52 := rfl
  have below : (1 / 0 : Float).toBits.toNat = 2047 * 2 ^ 52 := by decide +kernel
  have above : (-1 / 0 : Float).toBits.toNat = 2 ^ 63 + 2047 * 2 ^ 52 := by decide +kernel
  simp only [Parts.ofFloat, Parts.ofBits, unit] at h
  split at h
  · split at h
    · obtain rfl := Parts.infinite.inj h
      refine eq_of_toNat_toBits ?_
      by_cases high : 0x8000000000000000 ≤ x.toBits.toNat
      · rw [if_pos (decide_eq_true high), above]
        omega
      · rw [if_neg (by simpa using high), below]
        omega
    · cases h
  · split at h <;> cases h

theorem eq_zero {x : Float} {negative : Bool} (h : Parts.ofFloat x = .finite negative 0 q) :
    x = if negative then -0 else 0 := by
  have fits := x.toBits.toNat_lt
  have unit : Parts.leadingUnit = 2 ^ 52 := rfl
  have below : (0 : Float).toBits.toNat = 0 := by decide +kernel
  have above : (-0 : Float).toBits.toNat = 2 ^ 63 := by decide +kernel
  simp only [Parts.ofFloat, Parts.ofBits, unit] at h
  split at h
  · split at h <;> cases h
  split at h
  · obtain ⟨rfl, fraction, -⟩ := Parts.finite.inj h
    refine eq_of_toNat_toBits ?_
    by_cases high : 0x8000000000000000 ≤ x.toBits.toNat
    · rw [if_pos (decide_eq_true high), above]
      omega
    · rw [if_neg (by simpa using high), below]
      omega
  · obtain ⟨-, fraction, -⟩ := Parts.finite.inj h
    omega

example : Parts.ofFloat (-1 / 0) = .infinite true ∧
    Parts.ofFloat (-0) = .finite true 0 (-1074) := by
  decide +kernel

theorem finite_of_isFinite {x : Float} (h : x.isFinite = true) :
    ∃ negative m q, Parts.ofFloat x = .finite negative m q := by
  cases hx : Parts.ofFloat x with
  | nan =>
      rw [eq_nan hx] at h
      exact absurd h (by decide +kernel)
  | infinite negative =>
      rw [eq_infinite hx] at h
      cases negative <;> exact absurd h (by decide +kernel)
  | finite negative m q => exact ⟨negative, m, q, rfl⟩

theorem isFinite_zero : (0 : Float).isFinite = true := by decide +kernel

theorem isFinite_one : (1 : Float).isFinite = true := by decide +kernel

end TacticalDesign.Number
