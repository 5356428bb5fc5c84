import Mathlib.Tactic.IntervalCases
import Mathlib.Tactic.Ring
import TacticalDesign.Number.Reading
import TacticalDesign.Number.Value
/-!
# Numerals

Whatever is written for a number is a numeral: a sign, digits without a leading zero, digits behind
a point and a power of ten. The text of a float has a fraction or a power, the text of a whole
number has neither.
-/

namespace TacticalDesign

/-! ## Digits -/

structure AreDigits (ds : List Char) : Prop where
  nonempty : ds ≠ []
  digits : ∀ c ∈ ds, Number.isDigit c = true

/-- The digits of a whole number: no zero in front unless it is all there is. -/
structure AreWhole (ds : List Char) : Prop extends AreDigits ds where
  lead : ds = ['0'] ∨ ds.head? ≠ some '0'

theorem ne_of_isDigit {c d : Char} (digit : Number.isDigit c = true)
    (other : Number.isDigit d = false) : c ≠ d := by
  rintro rfl
  rw [other] at digit
  cases digit

namespace Number

theorem areDigits_toDigits (n : Nat) : AreDigits (Nat.toDigits 10 n) where
  nonempty := Nat.toDigits_ne_nil
  digits c hc := by
    have digit := Nat.isDigit_of_mem_toDigits (by decide) (by decide) hc
    simpa [isDigit, Char.isDigit, Char.le_def] using digit

theorem head?_toDigits {n : Nat} (pos : 0 < n) : (Nat.toDigits 10 n).head? ≠ some '0' := by
  induction n using Nat.strongRecOn with
  | ind n ih =>
      by_cases small : n < 10
      · rw [Nat.toDigits_of_lt_base small]
        interval_cases n <;> decide
      · rw [Nat.toDigits_of_base_le (by decide) (Nat.le_of_not_lt small),
          List.head?_append, Option.or_of_isSome (List.isSome_head?.mpr Nat.toDigits_ne_nil)]
        exact ih (n / 10) (by omega) (by omega)

theorem areWhole_toDigits (n : Nat) : AreWhole (Nat.toDigits 10 n) where
  toAreDigits := areDigits_toDigits n
  lead := by
    rcases Nat.eq_zero_or_pos n with rfl | pos
    · exact Or.inl (Nat.toDigits_zero 10)
    · exact Or.inr (head?_toDigits pos)

theorem digitsValue_toDigits (n : Nat) : digitsValue (Nat.toDigits 10 n) = n := by
  exact Nat.ofDigitChars_eq_foldl.symm.trans Nat.ofDigitChars_ten_toDigits

theorem foldl_digits (ds : List Char) (n : Nat) :
    ds.foldl (fun n c => 10 * n + (c.toNat - 48)) n = n * 10 ^ ds.length + digitsValue ds := by
  induction ds generalizing n with
  | nil => simp [digitsValue]
  | cons c ds ih =>
      rw [digitsValue, List.foldl_cons, List.foldl_cons, ih, ih, List.length_cons, pow_succ]
      ring

theorem digitsValue_append (ds es : List Char) :
    digitsValue (ds ++ es) = digitsValue ds * 10 ^ es.length + digitsValue es := by
  rw [digitsValue, List.foldl_append, foldl_digits]
  rfl

theorem digitsValue_cons (c : Char) (ds : List Char) :
    digitsValue (c :: ds) = (c.toNat - 48) * 10 ^ ds.length + digitsValue ds := by
  have one : digitsValue [c] = c.toNat - 48 := by simp [digitsValue]
  rw [← one]
  exact digitsValue_append [c] ds

theorem digitsValue_zeros (n : Nat) : digitsValue (List.replicate n '0') = 0 := by
  induction n with
  | zero => rfl
  | succ n ih => rw [List.replicate_succ, digitsValue_cons, ih]; simp

theorem digitsValue_dropWhile (ds : List Char) :
    digitsValue (ds.dropWhile (· = '0')) = digitsValue ds := by
  induction ds with
  | nil => rfl
  | cons c ds ih =>
      by_cases zero : c = '0'
      · rw [List.dropWhile_cons_of_pos (by simpa using zero), ih, digitsValue_cons, zero]
        simp
      · rw [List.dropWhile_cons_of_neg (by simpa using zero)]

theorem toNat_of_isDigit {c : Char} (h : isDigit c = true) : 48 ≤ c.toNat ∧ c.toNat ≤ 57 := by
  simp only [isDigit, Bool.and_eq_true, decide_eq_true_eq, Char.le_def] at h
  exact ⟨h.1, h.2⟩

theorem digitsValue_lt {ds : List Char} (digits : ∀ c ∈ ds, isDigit c = true) :
    digitsValue ds < 10 ^ ds.length := by
  induction ds with
  | nil => decide
  | cons c ds ih =>
      have rest := ih fun d hd => digits d (List.mem_cons_of_mem c hd)
      have bound := (toNat_of_isDigit (digits c List.mem_cons_self)).2
      have head : (c.toNat - 48) * 10 ^ ds.length ≤ 9 * 10 ^ ds.length :=
        Nat.mul_le_mul_right _ (by omega)
      rw [digitsValue_cons, List.length_cons, pow_succ]
      omega

theorem le_digitsValue {c : Char} (ds : List Char) (digit : isDigit c = true) (lead : c ≠ '0') :
    10 ^ ds.length ≤ digitsValue (c :: ds) := by
  have nonzero : c.toNat ≠ 48 := fun same => lead (Char.toNat_inj.mp same)
  have bound := (toNat_of_isDigit digit).1
  rw [digitsValue_cons]
  exact le_trans (Nat.le_mul_of_pos_left _ (by omega)) (Nat.le_add_right _ _)

theorem lead_of_dropWhile {ds rest : List Char} {c : Char} (digits : ∀ c ∈ ds, isDigit c = true)
    (front : ds.dropWhile (· = '0') = c :: rest) : isDigit c = true ∧ c ≠ '0' := by
  constructor
  · exact digits c (List.dropWhile_subset (· = '0') (front ▸ List.mem_cons_self))
  · have first := List.head?_dropWhile_not (· = '0') ds
    rw [front] at first
    simpa using first

end Number

/-! ## Numerals -/

/-- A number as it is written: its sign, the digits before and behind its point, and the sign and
the digits of its power of ten. -/
structure Numeral where
  negative : Bool
  whole : List Char
  fraction : List Char := []
  power : Option (Bool × List Char) := none

namespace Numeral

variable (n : Numeral)

def fractionChars : List Char :=
  match n.fraction with
  | [] => []
  | c :: rest => '.' :: c :: rest

theorem fractionChars_of_ne_nil (h : n.fraction ≠ []) : n.fractionChars = '.' :: n.fraction := by
  unfold fractionChars
  split
  · contradiction
  · rename_i hf
    rw [hf]

def powerChars : List Char :=
  match n.power with
  | none => []
  | some (negative, digits) => 'e' :: (if negative then '-' else '+') :: digits

def unsigned : List Char := n.whole ++ (n.fractionChars ++ n.powerChars)

def chars : List Char := if n.negative then '-' :: n.unsigned else n.unsigned

structure Proper : Prop where
  whole : AreWhole n.whole
  fraction : ∀ c ∈ n.fraction, Number.isDigit c = true
  power : ∀ negative digits, n.power = some (negative, digits) → AreDigits digits

def IsReal : Prop := n.fraction ≠ [] ∨ n.power ≠ none

def exponent : Int :=
  match n.power with
  | none => 0
  | some (negative, digits) =>
    let value : Int := Number.digitsValue digits
    if negative then -value else value

/-- Whether a numeral has the digits of a decimal at their places, perhaps with zeros behind. -/
def Writes (d : Number.Decimal) : Prop :=
  ∃ k : Nat, Number.digitsValue (n.whole ++ n.fraction) = d.digits * 10 ^ k ∧
    n.exponent - n.fraction.length = d.exponent - k ∧ (k : Int) ≤ max 0 (d.exponent + 1)

end Numeral

/-! ## Written floats -/

namespace Number

theorem toList_zeros (n : Nat) : (zeros n).toList = List.replicate n '0' := by
  simp [zeros]

theorem gridHit_pos {r : Rounding} {e : Int} {n : Nat} (h : gridHit r e = some n) : 0 < n := by
  simp only [gridHit] at h
  split at h
  · rename_i lower _
    have pos : 0 < floorAt r.value r.exponent e := (by simpa using lower : _ ∧ _).1
    split at h <;> cases h <;> omega
  · rename_i lower _
    cases h
    exact (by simpa using lower : _ ∧ _).1
  · cases h
    omega
  · cases h

def Decimal.Positive (d : Decimal) : Prop := 0 < d.digits

theorem Decimal.positive_trim {n : Nat} (pos : 0 < n) (e : Int) (fuel : Nat) :
    (Decimal.trim.go n e fuel).Positive := by
  induction fuel generalizing n e with
  | zero => exact pos
  | succ fuel ih =>
      unfold Decimal.trim.go
      split
      · exact ih (by omega) _
      · exact pos

theorem Rounding.firstHit_pos {r : Rounding} {grids : List Int} {d : Decimal}
    (h : r.firstHit grids = some d) : d.Positive := by
  obtain ⟨e, -, he⟩ := List.exists_of_findSome?_eq_some h
  obtain ⟨n, hn, rfl⟩ := Option.map_eq_some_iff.mp he
  exact gridHit_pos hn

theorem Rounding.positive_elim (r : Rounding) (grids : List Int) {d : Decimal} (pos : d.Positive) :
    ((r.firstHit grids).elim d fun d => Decimal.trim.go d.digits d.exponent 20).Positive := by
  cases hit : r.firstHit grids with
  | none => exact pos
  | some d => exact Decimal.positive_trim (firstHit_pos hit) _ _

theorem positive_shortest {mantissa : Nat} (pos : 0 < mantissa) (exponent : Int) :
    (shortest mantissa exponent).Positive :=
  Rounding.positive_elim (Rounding.of mantissa exponent) _ pos

theorem areWhole_append {ds es : List Char} (digits : AreDigits ds) (lead : ds.head? ≠ some '0')
    (more : ∀ c ∈ es, isDigit c = true) : AreWhole (ds ++ es) where
  nonempty := List.append_ne_nil_of_left_ne_nil digits.nonempty es
  digits c hc := (List.mem_append.mp hc).elim (digits.digits c) (more c)
  lead := by
    rw [List.head?_append, Option.or_of_isSome (List.isSome_head?.mpr digits.nonempty)]
    exact Or.inr lead

theorem isDigit_of_mem_zeros {n : Nat} {c : Char} (h : c ∈ List.replicate n '0') :
    isDigit c = true := by
  rw [List.eq_of_mem_replicate h]
  rfl

/-- Whether a text is a numeral with a fraction or a power that writes a decimal. -/
def Spells (text : String) (d : Decimal) : Prop :=
  ∃ n : Numeral, n.Proper ∧ n.IsReal ∧ n.negative = false ∧ text.toList = n.chars ∧ n.Writes d

def pointed : List Char → String
  | [] => "0"
  | [c] => String.singleton c
  | c :: rest => String.singleton c ++ "." ++ String.ofList rest

section Layouts

variable {d : Decimal} {ds : List Char} (digits : AreDigits ds) (lead : ds.head? ≠ some '0')
  (value : digitsValue ds = d.digits) {point : Int} (place : ds.length + d.exponent = point)
include digits value place

/-- Zeros between the point and the digits. -/
theorem spells_behind (low : point ≤ 0) :
    Spells ("0." ++ zeros (-point).toNat ++ String.ofList ds) d := by
  let fraction := List.replicate (-point).toNat '0' ++ ds
  have nonempty : fraction ≠ [] := List.append_ne_nil_of_right_ne_nil _ digits.nonempty
  have zero : AreWhole ['0'] := ⟨⟨by decide, List.forall_mem_singleton.mpr rfl⟩, Or.inl rfl⟩
  refine ⟨⟨false, ['0'], fraction, none⟩, ⟨zero, ?_, by simp⟩, Or.inl nonempty, rfl, ?_,
    0, ?_, ?_, by omega⟩
  · intro c hc
    exact (List.mem_append.mp hc).elim isDigit_of_mem_zeros (digits.digits c)
  · simp [Numeral.chars, Numeral.unsigned, Numeral.fractionChars_of_ne_nil, nonempty,
      Numeral.powerChars, toList_zeros, fraction]
  · have front : ['0'] ++ fraction = List.replicate (1 + (-point).toNat) '0' ++ ds := by
      rw [← List.replicate_append_replicate, List.append_assoc]
      rfl
    simp only [front, digitsValue_append, digitsValue_zeros, value]
    omega
  · simp only [Numeral.exponent, fraction, List.length_append, List.length_replicate]
    push_cast
    omega

include lead

/-- Zeros between the digits and the point. -/
theorem spells_before (high : (ds.length : Int) ≤ point) :
    Spells (String.ofList ds ++ zeros (point.toNat - ds.length) ++ ".0") d := by
  let whole := ds ++ List.replicate (point.toNat - ds.length) '0'
  have proper : AreWhole whole := areWhole_append digits lead fun _ => isDigit_of_mem_zeros
  have one : ∀ c ∈ ['0'], isDigit c = true := fun _ => isDigit_of_mem_zeros (n := 1)
  refine ⟨⟨false, whole, ['0'], none⟩, ⟨proper, one, by simp⟩, Or.inl (by simp), rfl, ?_,
    point.toNat - ds.length + 1, ?_, ?_, by omega⟩
  · simp [Numeral.chars, Numeral.unsigned, Numeral.fractionChars, Numeral.powerChars,
      toList_zeros, whole]
  · have behind : whole ++ ['0'] = ds ++ List.replicate (point.toNat - ds.length + 1) '0' := by
      rw [List.append_assoc, ← List.replicate_append_replicate]
      rfl
    rw [behind, digitsValue_append, digitsValue_zeros, value, List.length_replicate, Nat.add_zero]
  · simp only [Numeral.exponent, List.length_singleton]
    push_cast
    omega

/-- The point among the digits. -/
theorem spells_among (low : 0 < point) (high : point < ds.length) :
    Spells (String.ofList (ds.take point.toNat) ++ "." ++ String.ofList (ds.drop point.toNat))
      d := by
  have pos : point.toNat ≠ 0 := by omega
  have nonempty : ds.drop point.toNat ≠ [] := by
    rw [Ne, List.drop_eq_nil_iff]
    omega
  have whole : AreWhole (ds.take point.toNat) := by
    refine ⟨⟨?_, fun c hc => digits.digits c (List.mem_of_mem_take hc)⟩, Or.inr ?_⟩
    · rw [Ne, List.take_eq_nil_iff]
      exact fun h => h.elim pos digits.nonempty
    · rwa [List.head?_take, if_neg pos]
  refine ⟨⟨false, ds.take point.toNat, ds.drop point.toNat, none⟩,
    ⟨whole, fun c hc => digits.digits c (List.mem_of_mem_drop hc), by simp⟩,
    Or.inl nonempty, rfl, ?_, 0, ?_, ?_, by omega⟩
  · simp [Numeral.chars, Numeral.unsigned, Numeral.fractionChars_of_ne_nil, nonempty,
      Numeral.powerChars]
  · rw [List.take_append_drop, value, pow_zero, mul_one]
  · simp only [Numeral.exponent, List.length_drop]
    omega

/-- One digit before the point, and a power. -/
theorem spells_power (width : Nat) :
    Spells (pointed ds ++ (if point - 1 < 0 then "e-" else "e+") ++
      zeros (width - (natText (point - 1).natAbs).length) ++ natText (point - 1).natAbs) d := by
  obtain ⟨c, rest, rfl⟩ := List.exists_cons_of_ne_nil digits.nonempty
  obtain ⟨e, before⟩ : ∃ e, point - 1 = e := ⟨_, rfl⟩
  rw [before]
  let power := List.replicate (width - (natText e.natAbs).length) '0' ++ Nat.toDigits 10 e.natAbs
  have whole : AreWhole [c] :=
    ⟨⟨by simp, fun d hd => digits.digits d (by simp_all)⟩, Or.inr (by simpa using lead)⟩
  have power_digits : AreDigits power := by
    refine ⟨List.append_ne_nil_of_right_ne_nil _ Nat.toDigits_ne_nil, fun d hd => ?_⟩
    exact (List.mem_append.mp hd).elim isDigit_of_mem_zeros ((areDigits_toDigits _).digits d)
  have power_value : digitsValue power = e.natAbs := by
    rw [digitsValue_append, digitsValue_zeros, digitsValue_toDigits]
    omega
  refine ⟨⟨false, [c], rest, some (decide (e < 0), power)⟩, ⟨whole, ?_, ?_⟩,
    Or.inr (by simp), rfl, ?_, 0, ?_, ?_, by omega⟩
  · exact fun d hd => digits.digits d (List.mem_cons_of_mem c hd)
  · rintro negative ds ⟨⟩
    exact power_digits
  · have sign : (if e < 0 then "e-" else "e+").toList =
        ['e', if e < 0 then '-' else '+'] := by split <;> rfl
    cases rest <;>
      simp [Numeral.chars, Numeral.unsigned, Numeral.fractionChars, Numeral.powerChars,
        toList_zeros, natText, power, sign, pointed]
  · rw [pow_zero, mul_one]
    exact value
  · simp only [Numeral.exponent, power_value, decide_eq_true_eq]
    rw [List.length_cons] at place
    push_cast at place
    split <;> omega

end Layouts

theorem spells_decimalText (style : FloatStyle) {d : Decimal} (pos : d.Positive) :
    Spells (style.decimalText d) d := by
  have digits := areDigits_toDigits d.digits
  have lead := head?_toDigits pos
  have value := digitsValue_toDigits d.digits
  simp only [FloatStyle.decimalText]
  generalize Nat.toDigits 10 d.digits = ds at digits lead value ⊢
  obtain ⟨point, place⟩ : ∃ point : Int, ds.length + d.exponent = point := ⟨_, rfl⟩
  rw [place]
  split
  · split
    · exact spells_behind digits value place ‹_›
    · split
      · exact spells_before digits lead value place ‹_›
      · exact spells_among digits lead value place (by omega) (by omega)
  · exact spells_power digits lead value place style.exponentWidth

def decimalOf (mantissa : Nat) (exponent : Int) : Decimal :=
  if mantissa = 0 then ⟨0, 0⟩ else shortest mantissa exponent

theorem spells_magnitudeText (mantissa : Nat) (exponent : Int) :
    Spells (magnitudeText mantissa exponent) (decimalOf mantissa exponent) := by
  unfold magnitudeText decimalOf
  by_cases zero : mantissa = 0
  · rw [if_pos zero, if_pos zero]
    have one : ∀ c ∈ ['0'], isDigit c = true := fun _ => isDigit_of_mem_zeros (n := 1)
    exact ⟨⟨false, ['0'], ['0'], none⟩, ⟨⟨⟨by decide, one⟩, Or.inl rfl⟩, one, by simp⟩,
      Or.inl (by simp), rfl, rfl, 1, rfl, rfl, by decide⟩
  · rw [if_neg zero, if_neg zero]
    exact spells_decimalText _ (positive_shortest (Nat.pos_of_ne_zero zero) exponent)

/-- The text of a finite float is a numeral with a fraction or a power, which writes the decimal of
the float under its sign. -/
theorem floatText_numeral {x : Float} {negative : Bool} {mantissa : Nat} {exponent : Int}
    (finite : Parts.ofFloat x = .finite negative mantissa exponent) :
    ∃ n : Numeral, n.Proper ∧ n.IsReal ∧ (floatText x).toList = n.chars ∧
      n.negative = negative ∧ n.Writes (decimalOf mantissa exponent) := by
  obtain ⟨n, proper, real, unsigned, written, writes⟩ := spells_magnitudeText mantissa exponent
  rw [Numeral.chars, unsigned, if_neg Bool.false_ne_true] at written
  refine ⟨{ n with negative }, ⟨proper.whole, proper.fraction, proper.power⟩, real, ?_, rfl,
    writes⟩
  simp only [floatText, finite]
  cases negative with
  | false =>
      rw [if_neg Bool.false_ne_true, written]
      rfl
  | true =>
      rw [if_pos rfl, String.toList_append, written]
      rfl

theorem toList_intText (i : Int) :
    (intText i).toList =
      (Numeral.mk (decide (i < 0)) (Nat.toDigits 10 i.natAbs) [] none).chars := by
  by_cases negative : i < 0 <;>
    simp [intText, natText, negative, Numeral.chars, Numeral.unsigned, Numeral.fractionChars,
      Numeral.powerChars]

end Number

end TacticalDesign
