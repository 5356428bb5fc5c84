/-!
# Code point ranges

The one-line notation in which the property tables are written, and membership in a table.
-/

namespace TacticalDesign.Text

def hexDigit? (c : Char) : Option Nat :=
  if '0' ≤ c ∧ c ≤ '9' then some (c.toNat - 48)
  else if 'a' ≤ c ∧ c ≤ 'f' then some (c.toNat - 87)
  else none

/-- A hexadecimal number in lower case; characters that are no digits end it. -/
def hexValue (digits : List Char) : Nat :=
  digits.foldl (fun n c => match hexDigit? c with
    | some d => 16 * n + d
    | none => n) 0

def splitAtChar (sep : Char) : List Char → List (List Char)
  | [] => [[]]
  | c :: rest =>
    if c = sep then [] :: splitAtChar sep rest
    else match splitAtChar sep rest with
      | [] => [[c]]
      | piece :: pieces => (c :: piece) :: pieces

section Split

variable {sep : Char}

theorem splitAtChar_ne_nil (cs : List Char) : splitAtChar sep cs ≠ [] := by
  cases cs with
  | nil => simp [splitAtChar]
  | cons c cs =>
      rw [splitAtChar]
      split
      · simp
      · split <;> simp

theorem splitAtChar_cons_sep (cs : List Char) :
    splitAtChar sep (sep :: cs) = [] :: splitAtChar sep cs := by
  rw [splitAtChar, if_pos rfl]

theorem splitAtChar_cons {c : Char} (other : c ≠ sep) (cs : List Char) :
    splitAtChar sep (c :: cs) = (splitAtChar sep cs).modifyHead (c :: ·) := by
  rw [splitAtChar, if_neg other]
  split
  · rename_i empty
    exact absurd empty (splitAtChar_ne_nil cs)
  · rename_i cut
    rw [cut]
    rfl

theorem splitAtChar_append (before after : List Char) :
    splitAtChar sep (before ++ sep :: after) = splitAtChar sep before ++ splitAtChar sep after := by
  induction before with
  | nil => exact splitAtChar_cons_sep after
  | cons c before ih =>
      rw [List.cons_append]
      by_cases other : c = sep
      · rw [other, splitAtChar_cons_sep, splitAtChar_cons_sep, ih, List.cons_append]
      · rw [splitAtChar_cons other, splitAtChar_cons other, ih]
        cases cut : splitAtChar sep before with
        | nil => exact absurd cut (splitAtChar_ne_nil before)
        | cons name names => rfl

theorem splitAtChar_bare {name : List Char} (bare : sep ∉ name) :
    splitAtChar sep name = [name] := by
  induction name with
  | nil => rfl
  | cons c name ih =>
      have other : c ≠ sep := fun same => bare (same ▸ List.mem_cons_self)
      rw [splitAtChar_cons other, ih fun h => bare (List.mem_cons_of_mem c h)]
      rfl

theorem eq_nil_of_splitAtChar {cs : List Char} (h : splitAtChar sep cs = [[]]) : cs = [] := by
  cases cs with
  | nil => rfl
  | cons c cs =>
      by_cases other : c = sep
      · rw [other, splitAtChar_cons_sep] at h
        exact absurd (List.cons.inj h).2 (splitAtChar_ne_nil cs)
      · rw [splitAtChar_cons other] at h
        cases cut : splitAtChar sep cs with
        | nil => exact absurd cut (splitAtChar_ne_nil cs)
        | cons name names =>
            rw [cut] at h
            cases h

end Split

/-- The text up to the first place where `sep` stands, and what follows it if it stands anywhere. -/
def cutAtChar (sep : Char) : List Char → List Char × Option (List Char)
  | [] => ([], none)
  | c :: rest =>
    if c = sep then ([], some rest)
    else
      let (before, after) := cutAtChar sep rest
      (c :: before, after)

structure CodeRange where
  first : Nat
  last : Nat

namespace CodeRange

def contains (r : CodeRange) (n : Nat) : Bool := r.first ≤ n && n ≤ r.last

/-- Reads `first-last` or a single code point. -/
def ofEntry (entry : List Char) : CodeRange :=
  match cutAtChar '-' entry with
  | (a, some b) => ⟨hexValue a, hexValue b⟩
  | (a, none) => ⟨hexValue a, hexValue a⟩

end CodeRange

def tableEntries (lines : List String) : List (List Char) :=
  lines.flatMap fun line => splitAtChar ' ' line.toList

def rangesOfTable (lines : List String) : Array CodeRange :=
  ((tableEntries lines).map CodeRange.ofEntry).toArray

/-- Looks for the only range that may hold `n` by halving; the ranges of a table ascend. -/
def findRange? (table : Array CodeRange) (n : Nat) : Option CodeRange :=
  go table 0 table.size n table.size
where
  go (table : Array CodeRange) (lo hi n : Nat) : Nat → Option CodeRange
    | 0 => none
    | fuel + 1 =>
      if lo < hi then
        let mid := (lo + hi) / 2
        match table[mid]? with
        | none => none
        | some r =>
          if n < r.first then go table lo mid n fuel
          else if r.last < n then go table (mid + 1) hi n fuel
          else some r
      else none

def inRanges (table : Array CodeRange) (n : Nat) : Bool := (findRange? table n).isSome

end TacticalDesign.Text
