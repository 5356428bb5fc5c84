import Mathlib.Algebra.BigOperators.Group.List.Basic
import TacticalDesign.Proofs.Number.Exact
import TacticalDesign.Verdict
/-!
# Votes counted exactly

Votes as fractions: nothing is lost when they are added up, and they are rounded once. A setting of
a configuration may be infinite or no number; it is only ever compared with votes.
-/

namespace TacticalDesign

inductive ExactVote where
  | fraction (q : ℚ)
  | infinite (negative : Bool)
  | nan

namespace ExactVote

def ofNumber (n : Number) : ExactVote :=
  match n.toRat? with
  | some q => fraction q
  | none =>
    if n.isNegative then infinite true
    else if n.isPositive then infinite false
    else nan

/-- Only fractions are added, multiplied and divided. -/
def lift (f : ℚ → ℚ → ℚ) : ExactVote → ExactVote → ExactVote
  | fraction p, fraction q => fraction (f p q)
  | _, _ => nan

def lt : ExactVote → ExactVote → Bool
  | fraction p, fraction q => p < q
  | infinite a, infinite b => a && !b
  | infinite a, fraction _ => a
  | fraction _, infinite b => !b
  | _, _ => false

def le : ExactVote → ExactVote → Bool
  | fraction p, fraction q => p ≤ q
  | infinite a, infinite b => a || !b
  | infinite a, fraction _ => a
  | fraction _, infinite b => !b
  | _, _ => false

def same : ExactVote → ExactVote → Bool
  | fraction p, fraction q => p = q
  | infinite a, infinite b => a == b
  | _, _ => false

instance : Vote ExactVote where
  zero := fraction Vote.zero
  ofNumber := ofNumber
  add := lift Vote.add
  sub := lift Vote.sub
  mul := lift Vote.mul
  div := lift Vote.div
  round
    | fraction q => fraction (Vote.round q)
    | v => v
  lt := lt
  le := le
  same := same

/-! ## Fractions -/

variable (p q : ℚ)

theorem zero_eq : (Vote.zero : ExactVote) = fraction 0 := rfl

@[simp] theorem add_fraction : Vote.add (fraction p) (fraction q) = fraction (p + q) := rfl

@[simp] theorem sub_fraction : Vote.sub (fraction p) (fraction q) = fraction (p - q) := rfl

@[simp] theorem mul_fraction : Vote.mul (fraction p) (fraction q) = fraction (p * q) := rfl

@[simp] theorem round_fraction : Vote.round (fraction q) = fraction (Vote.round q) := rfl

@[simp] theorem lt_fraction : Vote.lt (fraction p) (fraction q) = decide (p < q) := rfl

@[simp] theorem le_fraction : Vote.le (fraction p) (fraction q) = decide (p ≤ q) := rfl

theorem ofNumber_eq {n : Number} (finite : n.isFinite = true) :
    (Vote.ofNumber n : ExactVote) = fraction n.exact := by
  show ofNumber n = _
  rw [ofNumber, Number.toRat?_of_isFinite finite]

variable {p q}

theorem le_mono {setting : ExactVote} (h : p ≤ q)
    (reached : Vote.le setting (fraction p) = true) : Vote.le setting (fraction q) = true := by
  cases setting with
  | fraction t =>
      rw [le_fraction, decide_eq_true_eq] at reached ⊢
      exact reached.trans h
  | infinite negative => exact reached
  | nan => exact reached

theorem le_anti {setting : ExactVote} (h : p ≤ q)
    (within : Vote.le (fraction q) setting = true) : Vote.le (fraction p) setting = true := by
  cases setting with
  | fraction t =>
      rw [le_fraction, decide_eq_true_eq] at within ⊢
      exact h.trans within
  | infinite negative => exact within
  | nan => exact within

theorem total_fraction (qs : List ℚ) :
    Confidence.total (qs.map fraction) = fraction qs.sum := by
  have from_start : ∀ start : ℚ, (qs.map fraction).foldl Vote.add (fraction start) =
      fraction (start + qs.sum) := by
    induction qs with
    | nil => simp
    | cons q rest ih =>
        intro start
        rw [List.map_cons, List.foldl_cons, add_fraction, ih, List.sum_cons, add_assoc]
  rw [Confidence.total, zero_eq, from_start, zero_add]

def share (vote : ℚ) (votes : List ℚ) : ℚ :=
  if votes.sum ≤ 0 then 0 else Vote.round (vote / votes.sum)

theorem support_fraction (vote : ℚ) (votes : List ℚ) :
    Confidence.support (fraction vote) (votes.map fraction) = fraction (share vote votes) := by
  rw [Confidence.support, total_fraction, zero_eq, le_fraction, share]
  by_cases none_given : votes.sum ≤ 0
  · rw [if_pos (decide_eq_true none_given), if_pos none_given]
  · rw [if_neg (by simpa using none_given), if_neg none_given]
    rfl

end ExactVote

end TacticalDesign
