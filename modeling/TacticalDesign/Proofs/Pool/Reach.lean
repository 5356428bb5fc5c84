import TacticalDesign.Proofs.Pool.Steady
/-!
# How far the workers get

Every unit that never returns takes a worker for good. `Workload.reach` counts the units up to the
one that takes the last worker; the units behind it get none. `Harvest.ofUnits`, which goes through
the units one by one, comes to the same: units within reach give what comes of them, those behind
are starved.
-/

namespace TacticalDesign

namespace SourceUnit

def neverReturns (u : SourceUnit) : Bool := u.yield?.isNone

def part? (u : SourceUnit) : Option PartialGraph := u.yield?.bind (·.part?)

/-- The skip of a unit that a worker gets hold of, if it is to be skipped. -/
def skip? (limit : Float) (u : SourceUnit) : Option SkippedUnit :=
  match u.yield? with
  | none => some (u.overdue limit)
  | some y => y.skip?

end SourceUnit

namespace Workload

variable (w : Workload)

def stoppers : List Nat := (List.range w.size).filter fun i => w.Endless i

/-- The number of units up to the one that takes the last worker; all of them if there is none. -/
def reach : Nat :=
  match w.stoppers[w.workers - 1]? with
  | some k => k + 1
  | none => w.size

/-! ## Positions and counts -/

/-- In an ascending list at most `m` members are below a bound when the member at `m` is not. -/
private theorem length_filter_lt_le_iff {l : List Nat} (ascends : l.Pairwise (· < ·)) (i m : Nat) :
    (l.filter (· < i)).length ≤ m ↔ ∀ k, l[m]? = some k → i ≤ k := by
  induction l generalizing m with
  | nil => simp
  | cons a l ih =>
      obtain ⟨above, ascends'⟩ := List.pairwise_cons.mp ascends
      by_cases hai : a < i
      · rw [List.filter_cons_of_pos (by simpa using hai), List.length_cons]
        cases m with
        | zero => simp [Nat.not_le.mpr hai]
        | succ m => simpa using ih ascends' m
      · have hnone : l.filter (· < i) = [] := by
          refine List.filter_eq_nil_iff.mpr fun b hb => ?_
          have := above b hb
          simp only [decide_eq_true_eq]
          omega
        rw [List.filter_cons_of_neg (by simpa using hai), hnone]
        simp only [List.length_nil, Nat.zero_le, true_iff]
        intro k hk
        rcases List.mem_cons.mp (List.mem_of_getElem? hk) with e | hm
        · omega
        · have := above k hm
          omega

private theorem card_endlessBefore_eq_length (i : Nat) :
    (w.endlessBefore i).card = (w.stoppers.filter (· < i)).length := by
  have nodup : (w.stoppers.filter (· < i)).Nodup := (List.nodup_range.filter _).filter _
  rw [← List.toFinset_card_of_nodup nodup]
  congr 1
  ext j
  simp only [endlessBefore, stoppers, Finset.mem_filter, Finset.mem_range, List.mem_toFinset,
    List.mem_filter, List.mem_range, decide_eq_true_eq]
  exact ⟨fun h => ⟨⟨h.2.1, h.2⟩, h.1⟩, fun h => ⟨h.2, h.1.2⟩⟩

theorem stoppers_ascend : w.stoppers.Pairwise (· < ·) := List.pairwise_lt_range.filter _

theorem lt_reach_iff (employs : 0 < w.workers) (i : Nat) :
    i < w.reach ↔ i < w.size ∧ w.IsReached i := by
  have hcount := length_filter_lt_le_iff w.stoppers_ascend i (w.workers - 1)
  rw [← card_endlessBefore_eq_length] at hcount
  have hreached : w.IsReached i ↔ (w.endlessBefore i).card ≤ w.workers - 1 := by
    unfold IsReached
    omega
  rw [hreached, hcount, reach]
  cases hk : w.stoppers[w.workers - 1]? with
  | none => simp
  | some k =>
      have hlt : k < w.size := by
        have hm := List.mem_of_getElem? hk
        simpa using (List.mem_filter.mp hm).1
      simp only [Option.some.injEq, forall_eq']
      omega

theorem endless_iff {i : Nat} {u : SourceUnit} (hu : w.units[i]? = some u) :
    w.Endless i ↔ u.neverReturns = true := by
  have hi : i < w.size := (List.getElem?_eq_some_iff.mp hu).1
  simp [Endless, yieldAt?, hu, hi, SourceUnit.neverReturns]

theorem card_endlessBefore {i : Nat} (hi : i ≤ w.size) :
    (w.endlessBefore i).card = (w.units.take i).countP (·.neverReturns) := by
  induction i with
  | zero => simp [endlessBefore]
  | succ i ih =>
      have hlt : i < w.units.length := hi
      have hu : w.units[i]? = some w.units[i] := List.getElem?_eq_getElem hlt
      rw [List.take_add_one, hu, Option.toList_some, List.countP_append, ← ih (by omega),
        endlessBefore, Finset.range_add_one, Finset.filter_insert]
      have hiff := w.endless_iff hu
      by_cases he : w.Endless i
      · have hc : (w.units[i]).neverReturns = true := hiff.mp he
        rw [if_pos he, Finset.card_insert_of_notMem (by simp)]
        simp [hc, endlessBefore]
      · have hc : (w.units[i]).neverReturns = false := by simpa [he] using hiff
        rw [if_neg he]
        simp [hc, endlessBefore]

end Workload

/-! ## Going through the units one by one -/

private theorem reach_tail {u : SourceUnit} {rest : List SourceUnit} {workers r : Nat} (free : Nat)
    (hr : ∀ i, i < r + 1 ↔
      i < (u :: rest).length ∧ ((u :: rest).take i).countP (·.neverReturns) < workers)
    (hfree : workers = free + if u.neverReturns then 1 else 0) (i : Nat) :
    i < r ↔ i < rest.length ∧ (rest.take i).countP (·.neverReturns) < free := by
  have h := hr (i + 1)
  rw [List.take_succ_cons, List.countP_cons, List.length_cons] at h
  omega

theorem Harvest.ofUnits_eq (limit : Float) {units : List SourceUnit} {workers r : Nat}
    (obedient : ∀ u ∈ units, u.extraction ≠ .cancelling)
    (hr : ∀ i, i < r ↔ i < units.length ∧ (units.take i).countP (·.neverReturns) < workers) :
    Harvest.ofUnits limit workers units =
      { parts := (units.take r).filterMap (·.part?)
        skipped := (units.take r).filterMap (·.skip? limit) ++ (units.drop r).map (·.starved)
        complete := true } := by
  -- Along the units; a unit that never returns leaves one worker less for the units behind it.
  induction units generalizing workers r with
  | nil =>
      simp [Harvest.ofUnits]
  | cons u rest ih =>
      have obedient' : ∀ v ∈ rest, v.extraction ≠ .cancelling :=
        fun v hv => obedient v (List.mem_cons_of_mem u hv)
      have h0 := hr 0
      cases workers with
      | zero =>
          have hr0 : r = 0 := by simpa using h0
          have hrest := @ih 0 0 obedient' (by simp)
          simp [Harvest.ofUnits, Harvest.addSkip, hrest, hr0]
      | succ free =>
          obtain ⟨r, rfl⟩ : ∃ q, r = q + 1 := Nat.exists_eq_succ_of_ne_zero (by simp at h0; omega)
          cases hy : u.yield? with
          | some y =>
              have hn : u.neverReturns = false := by simp [SourceUnit.neverReturns, hy]
              have hrest := ih obedient' (reach_tail (free + 1) hr (by simp [hn]))
              cases y with
              | part p => simp [Harvest.ofUnits, hy, Harvest.add, hrest, SourceUnit.part?,
                  SourceUnit.skip?, Yield.part?, Yield.skip?]
              | skip k => simp [Harvest.ofUnits, hy, Harvest.add, Harvest.addSkip, hrest,
                  SourceUnit.part?, SourceUnit.skip?, Yield.part?, Yield.skip?]
          | none =>
              have hn : u.neverReturns = true := by simp [SourceUnit.neverReturns, hy]
              have hrest := ih obedient' (reach_tail free hr (by simp [hn]))
              have hc := obedient u List.mem_cons_self
              simp [Harvest.ofUnits, hy, hc, Harvest.addSkip, hrest, SourceUnit.part?,
                SourceUnit.skip?]

namespace Workload

/-- One unit after another gives every unit within reach what comes of it and starves the rest. -/
theorem harvest_ofUnits (w : Workload) (employs : 0 < w.workers)
    (obedient : ∀ u ∈ w.units, u.extraction ≠ .cancelling) :
    Harvest.ofUnits w.limit w.workers w.units =
      { parts := (w.units.take w.reach).filterMap (·.part?)
        skipped := (w.units.take w.reach).filterMap (·.skip? w.limit) ++
          (w.units.drop w.reach).map (·.starved)
        complete := true } := by
  refine Harvest.ofUnits_eq w.limit obedient fun i => ?_
  rw [w.lt_reach_iff employs, IsReached]
  refine and_congr_right fun hi => ?_
  rw [w.card_endlessBefore (Nat.le_of_lt hi)]

/-! ## Records by position -/

private theorem filterMap_range_getElem? {β : Type} (units : List SourceUnit)
    (f : SourceUnit → Option β) :
    (List.range units.length).filterMap (fun i => units[i]?.bind f) = units.filterMap f := by
  induction units with
  | nil => rfl
  | cons u rest ih =>
      rw [List.length_cons, List.range_succ_eq_map, List.filterMap_cons, List.filterMap_map]
      simp only [List.getElem?_cons_zero, Option.bind_some, Function.comp_def,
        List.getElem?_cons_succ, ih, List.filterMap_cons]

theorem filterMap_range {β : Type} (units : List SourceUnit) {r : Nat} (hr : r ≤ units.length)
    (g : Nat → Option β) (f f' : SourceUnit → Option β)
    (within : ∀ i < r, g i = units[i]?.bind f)
    (behind : ∀ i, r ≤ i → i < units.length → g i = units[i]?.bind f') :
    (List.range units.length).filterMap g =
      (units.take r).filterMap f ++ (units.drop r).filterMap f' := by
  obtain ⟨d, hd⟩ := Nat.exists_eq_add_of_le hr
  rw [hd, List.range_add, List.filterMap_append, List.filterMap_map]
  congr 1
  · rw [← filterMap_range_getElem? (units.take r) f, List.length_take, Nat.min_eq_left hr]
    refine List.filterMap_congr fun i hi => ?_
    have hlt := List.mem_range.mp hi
    rw [within i hlt, List.getElem?_take_of_lt hlt]
  · have hlen : (units.drop r).length = d := by
      rw [List.length_drop]
      omega
    rw [← filterMap_range_getElem? (units.drop r) f', hlen]
    refine List.filterMap_congr fun i hi => ?_
    have hlt := List.mem_range.mp hi
    rw [Function.comp_apply, behind (r + i) (by omega) (by omega), List.getElem?_drop]

end Workload

end TacticalDesign
