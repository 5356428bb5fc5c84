/-!
# Orders on texts

Texts ascend by code point and lists of texts by their first difference. Sorting is stable.
-/

namespace TacticalDesign

def textLe (a b : String) : Bool := decide (a ≤ b)

def textsLe : List String → List String → Bool
  | [], _ => true
  | _ :: _, [] => false
  | a :: as, b :: bs => if a = b then textsLe as bs else decide (a < b)

def sortTexts (items : List String) : List String := items.mergeSort textLe

/-- Drops an item that equals the one before it. -/
def dropRepeats {α : Type} [DecidableEq α] : List α → List α
  | [] => []
  | [a] => [a]
  | a :: b :: rest => if a = b then dropRepeats (b :: rest) else a :: dropRepeats (b :: rest)

def textSet (items : List String) : List String := dropRepeats (sortTexts items)

def firstOccurrences {α : Type} [DecidableEq α] (items : List α) : List α :=
  items.foldl (fun seen a => if a ∈ seen then seen else seen ++ [a]) []

theorem mem_dropRepeats {α : Type} [DecidableEq α] {x : α} {items : List α} :
    x ∈ dropRepeats items ↔ x ∈ items := by
  fun_induction dropRepeats items with
  | case1 => simp
  | case2 a => simp
  | case3 a rest ih => simp [ih]
  | case4 a b rest h ih => simp only [List.mem_cons, ih]

theorem mem_textSet {x : String} {items : List String} : x ∈ textSet items ↔ x ∈ items := by
  simp [textSet, sortTexts, mem_dropRepeats, List.mem_mergeSort]

end TacticalDesign
