import TacticalDesign.Proofs.Pool.Steps
/-!
# No unit is counted twice

However the steps of a pool fall, a unit never ends up both as a part of the graph and as a skip.
A loop that runs to its end has settled every unit, except for those that a worker refused after
the end had been requested and that one last wait returned. `Run.accounts` puts numbers to it:
parts, skips and lost units add up to the units, and units are lost only on request.
-/

namespace TacticalDesign

namespace Pool

variable {w : Workload} {s t : Pool} {i : Nat}

/-! ## What a step leaves alone -/

@[simp] theorem setStage_pending (g : Stage) : (s.setStage i g).pending = s.pending := rfl

theorem setStage_stage (g : Stage) (j : Nat) :
    (s.setStage i g).stage j = if j = i then g else s.stage j := by
  simp [setStage, Function.update_apply]

@[simp] theorem setPhase_phase (p : Phase) : (s.setPhase p).phase = p := rfl
@[simp] theorem setPhase_stage (p : Phase) : (s.setPhase p).stage = s.stage := rfl
@[simp] theorem setPhase_pending (p : Phase) : (s.setPhase p).pending = s.pending := rfl

@[simp] theorem withdraw_pending : (s.withdraw i).pending = s.pending := by
  unfold withdraw; split <;> rfl

@[simp] theorem withdraw_parts : (s.withdraw i).parts = s.parts := by
  unfold withdraw; split <;> rfl

@[simp] theorem withdraw_phase : (s.withdraw i).phase = s.phase := by
  unfold withdraw; split <;> rfl

@[simp] theorem withdraw_endRequested : (s.withdraw i).endRequested = s.endRequested := by
  unfold withdraw; split <;> rfl

theorem withdraw_of_queued (hq : s.stage i = .queued) :
    s.withdraw i = { s with queue := s.queue.erase i }.setStage i .withdrawn := if_pos hq

/-! ## The invariant -/

structure Accounted (w : Workload) (s : Pool) : Prop where
  queue_nodup : s.queue.Nodup
  queue_queued : ∀ i ∈ s.queue, s.stage i = .queued
  pending_nodup : s.pending.Nodup
  pending_lt : ∀ i ∈ s.pending, i < w.size
  rest_nodup : s.phase.rest.Nodup
  rest_pending : ∀ i ∈ s.phase.rest, i ∈ s.pending
  unrecorded : ∀ i ∈ s.pending, s.parts i = none ∧ s.skips i = none
  recorded_once : ∀ i, ¬((s.parts i).isSome ∧ (s.skips i).isSome)
  settled : ∀ i < w.size, i ∉ s.pending →
    (s.parts i).isSome ∨ (s.skips i).isSome ∨ s.stage i = .refused
  refused_asked : ∀ i, s.stage i = .refused → s.endRequested = true
  finished_returns : ∀ i, s.stage i = .finished → (w.yieldAt? i).isSome
  ended_settled : s.phase = .ended true → s.pending = []

theorem accounted_submitted (w : Workload) : Accounted w (submitted w.size) where
  queue_nodup := List.nodup_range
  queue_queued := by simp [submitted]
  pending_nodup := List.nodup_range
  pending_lt := by simp [submitted]
  rest_nodup := List.nodup_nil
  rest_pending := by simp [submitted, Phase.rest]
  unrecorded := by simp [submitted]
  recorded_once := by simp [submitted]
  settled := by
    intro i hi hp
    exact absurd (List.mem_range.mpr hi) hp
  refused_asked := by simp [submitted]
  finished_returns := by simp [submitted]
  ended_settled := by simp [submitted]

namespace Accounted

theorem out_of_queue (h : Accounted w s) (hi : s.stage i ≠ .queued) : i ∉ s.queue :=
  fun hm => hi (h.queue_queued i hm)

/-- A unit that is out of the queue and has not been refused may change its stage. -/
theorem setStage {g : Stage} (h : Accounted w s) (out : i ∉ s.queue)
    (before : s.stage i ≠ .refused) (asked : g = .refused → s.endRequested = true)
    (returns : g = .finished → (w.yieldAt? i).isSome) : Accounted w (s.setStage i g) where
  queue_nodup := h.queue_nodup
  queue_queued := by
    intro j hj
    have hne : j ≠ i := by
      intro e
      exact out (e ▸ hj)
    rw [setStage_stage, if_neg hne]
    exact h.queue_queued j hj
  pending_nodup := h.pending_nodup
  pending_lt := h.pending_lt
  rest_nodup := h.rest_nodup
  rest_pending := h.rest_pending
  unrecorded := h.unrecorded
  recorded_once := h.recorded_once
  settled := by
    intro j hj hp
    rw [setStage_stage]
    rcases h.settled j hj hp with hr | hr | hr
    · exact Or.inl hr
    · exact Or.inr (Or.inl hr)
    · have hne : j ≠ i := by
        intro e
        exact before (e ▸ hr)
      rw [if_neg hne]
      exact Or.inr (Or.inr hr)
  refused_asked := by
    intro j hj
    rw [setStage_stage] at hj
    split at hj
    · exact asked hj
    · exact h.refused_asked j hj
  finished_returns := by
    intro j hj
    rw [setStage_stage] at hj
    split at hj
    · rename_i e
      exact e ▸ returns hj
    · exact h.finished_returns j hj
  ended_settled := h.ended_settled

theorem setPhase {p : Phase} (h : Accounted w s) (nodup : p.rest.Nodup)
    (pending : ∀ i ∈ p.rest, i ∈ s.pending) (ended : p = .ended true → s.pending = []) :
    Accounted w (s.setPhase p) :=
  { h with rest_nodup := nodup, rest_pending := pending, ended_settled := ended }

theorem rest_tail {rest : List Nat} (h : Accounted w s) (pass : s.phase.rest = i :: rest) :
    rest.Nodup ∧ i ∉ rest ∧ i ∈ s.pending ∧ ∀ j ∈ rest, j ∈ s.pending := by
  have hn := h.rest_nodup
  have hp := h.rest_pending
  rw [pass] at hn hp
  refine ⟨(List.nodup_cons.mp hn).2, (List.nodup_cons.mp hn).1, hp i List.mem_cons_self, ?_⟩
  intro j hj
  exact hp j (List.mem_cons_of_mem i hj)

theorem mem_erase (h : Accounted w s) (j : Nat) :
    j ∈ s.pending.erase i ↔ j ≠ i ∧ j ∈ s.pending :=
  h.pending_nodup.mem_erase_iff

theorem giveUp {skip : Option SkippedUnit} {rest : List Nat} {p : Phase} (h : Accounted w s)
    (pass : s.phase.rest = i :: rest) (tail : p.rest = rest) (running : ∀ c, p ≠ .ended c)
    (record : skip.isSome) : Accounted w ((s.giveUp i skip).setPhase p) := by
  obtain ⟨nodup, fresh, waits, inside⟩ := h.rest_tail pass
  exact {
    queue_nodup := h.queue_nodup
    queue_queued := h.queue_queued
    pending_nodup := h.pending_nodup.erase i
    rest_nodup := tail ▸ nodup
    refused_asked := h.refused_asked
    finished_returns := h.finished_returns
    ended_settled := fun he => absurd he (running true)
    pending_lt := by
      intro j hj
      exact h.pending_lt j ((h.mem_erase j).mp hj).2
    rest_pending := by
      intro j hj
      replace hj : j ∈ rest := tail ▸ hj
      refine (h.mem_erase j).mpr ⟨?_, inside j hj⟩
      intro e
      exact fresh (e ▸ hj)
    unrecorded := by
      intro j hj
      obtain ⟨hne, hp⟩ := (h.mem_erase j).mp hj
      simpa [Pool.giveUp, Pool.setPhase, hne] using h.unrecorded j hp
    recorded_once := by
      intro j
      by_cases e : j = i
      · subst e
        simp [Pool.giveUp, Pool.setPhase, (h.unrecorded j waits).1]
      · simpa [Pool.giveUp, Pool.setPhase, e] using h.recorded_once j
    settled := by
      intro j hj hp
      by_cases e : j = i
      · subst e
        exact Or.inr (Or.inl (by simpa [Pool.giveUp, Pool.setPhase] using record))
      · have hp' : j ∉ s.pending := fun hm => hp ((h.mem_erase j).mpr ⟨e, hm⟩)
        simpa [Pool.giveUp, Pool.setPhase, e] using h.settled j hj hp' }

theorem collect {batch : List Nat} (h : Accounted w s) (idle : s.phase.rest = [])
    (running : ∀ c, s.phase ≠ .ended c)
    (done : ∀ i ∈ batch, i ∈ s.pending ∧ (s.stage i).IsDone) :
    Accounted w (s.collect w batch) := by
  have part_or_failure : ∀ j, s.stage j = .finished →
      ((w.partAt? j).isSome ∨ (w.failureAt? j).isSome) ∧
        ¬((w.partAt? j).isSome ∧ (w.failureAt? j).isSome) := by
    intro j hj
    obtain ⟨y, hy⟩ := Option.isSome_iff_exists.mp (h.finished_returns j hj)
    simp only [Workload.partAt?, Workload.failureAt?, hy, Option.bind_some]
    exact ⟨y.part?_or_skip?, y.not_part?_and_skip?⟩
  exact {
    queue_nodup := h.queue_nodup
    queue_queued := h.queue_queued
    pending_nodup := h.pending_nodup.filter _
    rest_nodup := h.rest_nodup
    refused_asked := h.refused_asked
    finished_returns := h.finished_returns
    ended_settled := fun he => absurd he (running true)
    pending_lt := by
      intro j hj
      exact h.pending_lt j (List.mem_of_mem_filter hj)
    rest_pending := by
      intro j hj
      simp [Pool.collect, idle] at hj
    unrecorded := by
      intro j hj
      obtain ⟨hp, hb⟩ : j ∈ s.pending ∧ j ∉ batch := by simpa [Pool.collect] using hj
      simpa [Pool.collect, hb] using h.unrecorded j hp
    recorded_once := by
      intro j
      by_cases hj : j ∈ batch ∧ s.stage j = .finished
      · obtain ⟨hparts, hskips⟩ := h.unrecorded j (done j hj.1).1
        simpa [Pool.collect, hj, hparts, hskips] using (part_or_failure j hj.2).2
      · simpa only [Pool.collect, if_neg hj] using h.recorded_once j
    settled := by
      intro j hj hp
      by_cases hb : j ∈ batch
      · obtain ⟨waits, hd⟩ := done j hb
        obtain ⟨hparts, hskips⟩ := h.unrecorded j waits
        rcases hd with hf | hr
        · rcases (part_or_failure j hf).1 with hp | hp
          · exact Or.inl (by simpa [Pool.collect, hb, hf, hparts] using hp)
          · exact Or.inr (Or.inl (by simpa [Pool.collect, hb, hf, hskips] using hp))
        · exact Or.inr (Or.inr hr)
      · have hp' : j ∉ s.pending := by
          intro hm
          exact hp (by simpa [Pool.collect, hb] using hm)
        simpa [Pool.collect, hb] using h.settled j hj hp' }

end Accounted

/-! ## Steps and runs -/

/-- After a pass over the times the loop polls again, or it gives up what has not started. -/
theorem afterSweep_cases (w : Workload) (s : Pool) :
    (w.workers ≤ s.abandoned ∧ s.afterSweep w = .draining s.pending) ∨
      s.afterSweep w = .polling := by
  unfold afterSweep
  split
  · rename_i h
    exact Or.inl ⟨h.1, rfl⟩
  · exact Or.inr rfl

theorem Accounted.setQueue {queue : List Nat} (h : Accounted w s) (sub : queue.Sublist s.queue) :
    Accounted w { s with queue := queue } :=
  { h with
    queue_nodup := h.queue_nodup.sublist sub
    queue_queued := fun i hi => h.queue_queued i (sub.subset hi) }

theorem Accounted.withdraw (h : Accounted w s) : Accounted w (s.withdraw i) := by
  unfold Pool.withdraw
  split
  · rename_i hq
    exact (h.setQueue List.erase_sublist).setStage h.queue_nodup.not_mem_erase (by simp [hq])
      (by simp) (by simp)
  · exact h

theorem Accounted.step {a : Action} (h : Accounted w s) (step : Step w s a t) : Accounted w t := by
  cases step with
  | request =>
      exact { h with refused_asked := fun _ _ => rfl }
  | take i rest head free =>
      have hn := h.queue_nodup
      have hq := h.queue_queued i (by simp [head])
      rw [head] at hn
      have hs : rest.Sublist s.queue := head ▸ List.sublist_cons_self i rest
      exact (h.setQueue hs).setStage (List.nodup_cons.mp hn).1 (by simp [hq]) (by simp) (by simp)
  | start i at_hand =>
      refine h.setStage (h.out_of_queue (by simp [at_hand])) (by simp [at_hand]) ?_ ?_
      · cases s.endRequested <;> simp
      · cases s.endRequested <;> simp
  | finish i runs returns =>
      exact h.setStage (h.out_of_queue (by simp [runs])) (by simp [runs]) (by simp)
        (fun _ => returns)
  | look polls waits unasked =>
      exact h.setPhase List.nodup_nil (by simp [Phase.rest]) (by simp)
  | wake batch waits done spared =>
      have hc := h.collect (by simp [waits, Phase.rest]) (by simp [waits]) done
      exact hc.setPhase hc.pending_nodup (fun _ hi => hi) (by simp)
  | overdraw waits long undone =>
      exact h.setPhase List.nodup_nil (by simp [Phase.rest]) (by simp)
  | expire i rest sweeps started =>
      have hi := (h.rest_tail (i := i) (by rw [sweeps]; rfl)).2.2.1
      have h' : Accounted w { s with abandoned := s.abandoned + 1 } := { h with }
      exact h'.giveUp (by simp [sweeps, Phase.rest]) rfl (by simp)
        (w.overdueAt?_isSome (h.pending_lt i hi))
  | spare i rest sweeps =>
      obtain ⟨nodup, -, -, inside⟩ := h.rest_tail (by rw [sweeps]; rfl)
      exact h.setPhase nodup inside (by simp)
  | finishSweep sweeps =>
      rcases afterSweep_cases w s with ⟨-, e⟩ | e <;> rw [e]
      · exact h.setPhase h.pending_nodup (fun _ hi => hi) (by simp)
      · exact h.setPhase List.nodup_nil (by simp [Phase.rest]) (by simp)
  | starve i rest drains unstarted =>
      have hi := (h.rest_tail (i := i) (by rw [drains]; rfl)).2.2.1
      exact h.withdraw.giveUp (by simp [drains, Phase.rest]) rfl (by simp)
        (w.starvedAt?_isSome (h.pending_lt i hi))
  | keep i rest drains started =>
      obtain ⟨nodup, -, -, inside⟩ := h.rest_tail (by rw [drains]; rfl)
      exact h.setPhase nodup inside (by simp)
  | finishDrain drains =>
      exact h.setPhase List.nodup_nil (by simp [Phase.rest]) (by simp)
  | close polls settled =>
      exact h.setPhase List.nodup_nil (by simp [Phase.rest]) (fun _ => settled)
  | abort batch polls waits asked done =>
      have hc := h.collect (by simp [polls, Phase.rest]) (by simp [polls]) done
      exact hc.setPhase List.nodup_nil (by simp [Phase.rest]) (by simp)

theorem Run.accounted {acts : List Action} (run : Run w (submitted w.size) acts s) :
    Accounted w s :=
  run.invariant (fun _ _ _ _ step h => h.step step) (accounted_submitted w)

/-- A part is what comes of its unit; only the results of a batch add parts. -/
theorem Run.partAt?_of_parts {acts : List Action} (run : Run w (submitted w.size) acts s)
    {p : PartialGraph} (h : s.parts i = some p) : w.partAt? i = some p := by
  have collected {batch : List Nat} {s : Pool}
      (before : ∀ i p, s.parts i = some p → w.partAt? i = some p) (i : Nat) (p : PartialGraph)
      (h : (s.collect w batch).parts i = some p) : w.partAt? i = some p := by
    simp only [Pool.collect] at h
    split at h
    · rcases Option.or_eq_some_iff.mp h with h | ⟨-, h⟩
      · exact h
      · exact before i p h
    · exact before i p h
  refine run.invariant (P := fun s => ∀ i p, s.parts i = some p → w.partAt? i = some p)
    (fun a _ s t step before i p h => ?_) nofun i p h
  cases step with
  | wake batch waits done spared => exact collected before i p h
  | abort batch polls waits asked done => exact collected before i p h
  | starve j rest drains unstarted =>
      exact before i p ((congrFun withdraw_parts i).symm.trans h)
  | _ => exact before i p h

theorem Run.request_mem {acts : List Action} (run : Run w s acts t)
    (before : s.endRequested = false) (after : t.endRequested = true) : .request ∈ acts := by
  induction run with
  | nil => rw [before] at after; cases after
  | @cons s t u a acts step _ ih =>
      by_cases ha : a = .request
      · exact ha ▸ List.mem_cons_self
      · refine List.mem_cons_of_mem a (ih ?_ after)
        cases step with
        | request => exact absurd rfl ha
        | starve i rest drains unstarted =>
            exact (withdraw_endRequested (s := s) (i := i)).trans before
        | _ => exact before

/-- Only a loop with units to wait for overdraws, and only where its waits are too long. -/
theorem Run.overlong {acts : List Action} (run : Run w (submitted w.size) acts s)
    (drawn : s.phase = .overdrawn) : w.Overlong ∧ 0 < w.size := by
  refine (run.invariant (P := fun s => Accounted w s ∧ (s.phase = .waiting → s.pending ≠ []) ∧
    (s.phase = .overdrawn → w.Overlong ∧ 0 < w.size)) (fun a _ s t step h => ?_)
    ⟨accounted_submitted w, nofun, nofun⟩).2.2 drawn
  obtain ⟨accounted, waited, overdrawn⟩ := h
  refine ⟨accounted.step step, ?_⟩
  cases step with
  | request | take | start | finish => exact ⟨waited, overdrawn⟩
  | look polls waits unasked => exact ⟨fun _ => waits, nofun⟩
  | overdraw waits long undone =>
      refine ⟨nofun, fun _ => ⟨long, ?_⟩⟩
      obtain ⟨i, hi⟩ := List.exists_mem_of_ne_nil _ (waited waits)
      exact Nat.zero_lt_of_lt (accounted.pending_lt i hi)
  | finishSweep sweeps =>
      rcases afterSweep_cases w s with ⟨-, e⟩ | e <;> rw [e] <;> exact ⟨nofun, nofun⟩
  | _ => exact ⟨nofun, nofun⟩

/-! ## Counting -/

/-- The units that left no record although the loop no longer waits for them. -/
def lost (n : Nat) (s : Pool) : List Nat :=
  (List.range n).filter fun i => (s.parts i).isNone && (s.skips i).isNone

private theorem length_records (f : Nat → Option PartialGraph) (g : Nat → Option SkippedUnit)
    (once : ∀ i, ¬((f i).isSome ∧ (g i).isSome)) (n : Nat) :
    ((List.range n).filterMap f).length + ((List.range n).filterMap g).length +
      ((List.range n).filter fun i => (f i).isNone && (g i).isNone).length = n := by
  induction n with
  | zero => simp
  | succ n ih =>
      have h := once n
      rw [List.range_succ, List.filterMap_append, List.filterMap_append, List.filter_append]
      cases hf : f n <;> cases hg : g n
      · simp [hf, hg]; omega
      · simp [hf, hg]; omega
      · simp [hf, hg]; omega
      · simp [hf, hg] at h

/-- Parts and skips of a complete extraction add up to its units, up to the lost ones; a unit is
lost only when a worker refused it, and that takes a request. -/
theorem Run.accounts {acts : List Action} (run : Run w (submitted w.size) acts s) :
    (∀ i, ¬((s.parts i).isSome ∧ (s.skips i).isSome)) ∧
      (s.phase = .ended true →
        (s.harvest w.size true).parts.length + (s.harvest w.size true).skipped.length +
            (s.lost w.size).length = w.size ∧
          (∀ i ∈ s.lost w.size, s.stage i = .refused) ∧
          (s.lost w.size ≠ [] → .request ∈ acts)) := by
  have h := run.accounted
  refine ⟨h.recorded_once, ?_⟩
  intro ended
  have refused : ∀ i ∈ s.lost w.size, s.stage i = .refused := by
    intro i hi
    obtain ⟨hn, hp, hs⟩ : i < w.size ∧ s.parts i = none ∧ s.skips i = none := by
      simpa [lost] using hi
    have hset := h.settled i hn (by simp [h.ended_settled ended])
    simpa [hp, hs] using hset
  refine ⟨length_records s.parts s.skips h.recorded_once w.size, refused, ?_⟩
  intro hne
  obtain ⟨i, hi⟩ := List.exists_mem_of_ne_nil _ hne
  exact run.request_mem rfl (h.refused_asked i (refused i hi))

/-- One unit, one worker: the end is requested while the loop waits, the worker refuses the unit,
and the wait returns it. -/
theorem complete_run_may_lose :
    ∃ acts s, Run ⟨[⟨"A", "java", .declared []⟩], 1, 1, 1⟩ (submitted 1) acts s ∧
      s.phase = .ended true ∧ s.lost 1 = [0] := by
  let w : Workload := ⟨[⟨"A", "java", .declared []⟩], 1, 1, 1⟩
  refine ⟨[.look, .request, .take 0, .start 0, .wake [0], .finishSweep, .close], _,
    .cons (.look _ rfl (by decide) rfl) <| .cons (.request _) <|
    .cons (.take _ 0 [] rfl (by decide)) <| .cons (.start _ 0 rfl) <|
    .cons (.wake _ [0] rfl ?_ (by simp)) <| .cons (.finishSweep _ rfl) <|
    .cons (.close _ rfl rfl) (.nil _), rfl, rfl⟩
  simp [submitted, Stage.IsDone, setPhase, setStage]

end Pool

end TacticalDesign
