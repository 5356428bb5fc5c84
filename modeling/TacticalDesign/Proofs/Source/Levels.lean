import TacticalDesign.Proofs.Order
import TacticalDesign.Source.Walk
/-!
# Source order and levels

In the order of the source a statement stands before what is inside of it, and all of that before
the next statement. Walking level by level visits the same statements sorted by their depth: what
stands at one depth stays in the order of the source.
-/

namespace TacticalDesign.Source

namespace Statement

mutual

def insideInOrder (depth : Nat) : Statement → List (Nat × Statement)
  | classDef _ _ _ _ body => inOrder depth body
  | functionDef _ _ _ _ _ body => inOrder depth body
  | compound _ parts => inOrder depth parts
  | clause body => inOrder depth body
  | _ => []

def inOrder (depth : Nat) : List Statement → List (Nat × Statement)
  | [] => []
  | s :: rest => (depth, s) :: (insideInOrder (depth + 1) s ++ inOrder depth rest)

end

theorem insideInOrder_eq (depth : Nat) (s : Statement) :
    insideInOrder depth s = inOrder depth s.inside := by
  cases s <;> simp only [insideInOrder, inside, inOrder]

mutual

theorem depth_bounds_inside {depth : Nat} {s : Statement} {p : Nat × Statement}
    (h : p ∈ insideInOrder depth s) : depth ≤ p.1 ∧ p.1 + 1 < depth + s.height := by
  cases s with
  | classDef name decorators bases keywords body =>
      rw [insideInOrder] at h
      have bounds := depth_bounds h
      rw [height]
      omega
  | functionDef isAsync name decorators parameters returns body =>
      rw [insideInOrder] at h
      have bounds := depth_bounds h
      rw [height]
      omega
  | compound kind parts =>
      rw [insideInOrder] at h
      have bounds := depth_bounds h
      rw [height]
      omega
  | clause body =>
      rw [insideInOrder] at h
      have bounds := depth_bounds h
      rw [height]
      omega
  | _ => cases h

theorem depth_bounds {depth : Nat} {body : List Statement} {p : Nat × Statement}
    (h : p ∈ inOrder depth body) : depth ≤ p.1 ∧ p.1 < depth + heights body := by
  cases body with
  | nil => cases h
  | cons s rest =>
      rw [inOrder] at h
      rw [heights]
      rcases List.mem_cons.mp h with rfl | h
      · have tall : 0 < s.height := by cases s <;> simp [height]
        simp only
        omega
      · rcases List.mem_append.mp h with h | h
        · have bounds := depth_bounds_inside h
          omega
        · have bounds := depth_bounds h
          omega

end

/-! ## Levels -/

def level (body : List Statement) : Nat → List Statement
  | 0 => body
  | k + 1 => level (body.flatMap inside) k

theorem level_append (a b : List Statement) (k : Nat) :
    level (a ++ b) k = level a k ++ level b k := by
  induction k generalizing a b with
  | zero => rfl
  | succ k ih => rw [level, List.flatMap_append, ih, level, level]

theorem level_nil (k : Nat) : level [] k = [] := by
  induction k with
  | zero => rfl
  | succ k ih => exact ih

theorem levels_eq (body : List Statement) (n : Nat) :
    levels body n = (List.range (n + 1)).flatMap (level body) := by
  induction n generalizing body with
  | zero => simp [levels, level]
  | succ n ih =>
      have first : List.range (n + 2) = 0 :: (List.range (n + 1)).map Nat.succ :=
        List.range_succ_eq_map
      rw [levels, ih, first, List.flatMap_cons, List.flatMap_map]
      rfl

theorem filter_inOrder (body : List Statement) (depth k : Nat) :
    (inOrder depth body).filter (fun p => p.1 = depth + k) =
      (level body k).map (depth + k, ·) := by
  induction k generalizing depth body with
  | zero =>
      induction body with
      | nil => rfl
      | cons s rest ih =>
          have deeper : (insideInOrder (depth + 1) s).filter (fun p => p.1 = depth + 0) = [] := by
            refine List.filter_eq_nil_iff.mpr fun p hp => ?_
            have bounds := depth_bounds_inside hp
            simp only [decide_eq_true_eq]
            omega
          rw [inOrder, List.filter_cons_of_pos (by simp), List.filter_append, deeper, ih]
          rfl
  | succ k ih =>
      induction body with
      | nil => simp [inOrder, level_nil]
      | cons s rest ih' =>
          have shift : depth + (k + 1) = depth + 1 + k := by omega
          rw [inOrder, List.filter_cons_of_neg (by simp), List.filter_append, ih',
            insideInOrder_eq, shift, ih, level, level, List.flatMap_cons, level_append,
            List.map_append]

def walkPlaces (body : List Statement) : List (Nat × Statement) :=
  (inOrder 0 body).mergeSort fun p q => decide (p.1 ≤ q.1)

theorem flatMap_range_single {β : Type} (f : Nat → List β) (n k : Nat) :
    ((List.range n).flatMap fun j => if j = k then f j else []) = if k < n then f k else [] := by
  induction n with
  | zero => simp
  | succ n ih =>
      rw [List.range_succ, List.flatMap_append, ih, List.flatMap_cons, List.flatMap_nil,
        List.append_nil]
      by_cases last : n = k
      · subst last
        simp
      · rw [if_neg last, List.append_nil]
        exact if_congr (by omega) rfl rfl

theorem walkPlaces_eq (body : List Statement) :
    walkPlaces body =
      (List.range (heights body + 1)).flatMap fun k => (level body k).map (k, ·) := by
  apply eq_of_sorted Prod.fst (sorted_mergeSort Prod.fst (inOrder 0 body))
  · rw [List.pairwise_flatMap]
    constructor
    · intro k _
      exact List.pairwise_map.mpr (List.pairwise_of_forall fun _ _ => le_rfl)
    · refine List.pairwise_lt_range.imp fun {k k'} lt p hp q hq => ?_
      obtain ⟨s, -, rfl⟩ := List.mem_map.mp hp
      obtain ⟨t, -, rfl⟩ := List.mem_map.mp hq
      exact Nat.le_of_lt lt
  · intro k
    have one : ∀ j, ((level body j).map (j, ·)).filter (fun p => decide (p.1 = k)) =
        if j = k then (level body j).map (j, ·) else [] := by
      intro j
      by_cases same : j = k <;> simp [same]
    have here := filter_inOrder body 0 k
    rw [Nat.zero_add] at here
    rw [filter_mergeSort, List.filter_flatMap, here]
    simp only [one]
    rw [flatMap_range_single]
    split
    · rfl
    · -- no statement stands deeper than the height
      rename_i high
      rw [← here]
      refine List.filter_eq_nil_iff.mpr fun p hp => ?_
      have bounds := depth_bounds hp
      simp only [decide_eq_true_eq]
      omega

/-- Walking level by level visits the statements sorted by depth. -/
theorem walk_eq (body : List Statement) : walk body = (walkPlaces body).map Prod.snd := by
  rw [walk, levels_eq, walkPlaces_eq, List.map_flatMap]
  simp [Function.comp_def]

end Statement

end TacticalDesign.Source
