import TacticalDesign.Proofs.Pool.Accounting
/-!
# A pool that nobody disturbs

Nobody requests the end, and only units that never return are given up for their time. Then units
leave the queue in order, a unit leaves it only while fewer units that never return are ahead of
it than there are workers, and units are drawn back only once all workers are lost. `Steady`
collects what the steps preserve.
-/

namespace TacticalDesign

namespace Workload

def endlessBefore (w : Workload) (i : Nat) : Finset Nat := (Finset.range i).filter w.Endless

def IsReached (w : Workload) (i : Nat) : Prop := (w.endlessBefore i).card < w.workers

end Workload

namespace Pool

variable {w : Workload} {s t : Pool} {i : Nat}

def Stage.IsServed (g : Stage) : Prop := g.IsBusy ∨ g = .finished

/-- The units that were given up for their time and still keep a worker. -/
def stuck (w : Workload) (s : Pool) : Finset Nat :=
  (Finset.range w.size).filter fun i => w.Endless i ∧ s.stage i = .running ∧ i ∉ s.pending

theorem mem_stuck : i ∈ s.stuck w ↔ w.Endless i ∧ s.stage i = .running ∧ i ∉ s.pending := by
  simp only [stuck, Finset.mem_filter, Finset.mem_range, and_iff_right_iff_imp]
  exact fun h => h.1.1

/-- How a unit that the loop no longer waits for has come off. -/
inductive Settled (w : Workload) (s : Pool) (i : Nat) : Prop where
  | returned (stage : s.stage i = .finished) (part : s.parts i = w.partAt? i)
      (skip : s.skips i = w.failureAt? i)
  | overdue (stage : s.stage i = .running) (endless : w.Endless i) (part : s.parts i = none)
      (skip : s.skips i = w.overdueAt? i)
  | starved (stage : s.stage i = .withdrawn) (part : s.parts i = none)
      (skip : s.skips i = w.starvedAt? i)

theorem Settled.congr {j : Nat} (h : Settled w s j) (stage : t.stage j = s.stage j)
    (part : t.parts j = s.parts j) (skip : t.skips j = s.skips j) : Settled w t j := by
  cases h with
  | returned a b c => exact .returned (stage.trans a) (part.trans b) (skip.trans c)
  | overdue a b c d => exact .overdue (stage.trans a) b (part.trans c) (skip.trans d)
  | starved a b c => exact .starved (stage.trans a) (part.trans b) (skip.trans c)

structure Steady (w : Workload) (s : Pool) : Prop where
  accounted : Accounted w s
  unasked : s.endRequested = false
  uncut : s.phase ≠ .ended false
  inside : ∀ i, s.stage i ≠ .queued → i < w.size
  queue_sorted : s.queue.Pairwise (· < ·)
  queue_lt : ∀ i ∈ s.queue, i < w.size
  queue_complete : ∀ i < w.size, s.stage i = .queued → i ∈ s.queue
  capacity : (s.busy w.size).card ≤ w.workers
  abandoned_eq : s.abandoned = (s.stuck w).card
  withdrawn_exhausted : ∀ i, s.stage i = .withdrawn → w.workers ≤ s.abandoned
  draining_exhausted : ∀ rest, s.phase = .draining rest → w.workers ≤ s.abandoned
  withdrawn_settled : ∀ i, s.stage i = .withdrawn → i ∉ s.pending
  fifo : ∀ i j, i < w.size → (s.stage i = .queued ∨ s.stage i = .withdrawn) →
    (s.stage j).IsServed → j < i
  reached : ∀ i, (s.stage i).IsServed → w.IsReached i
  settled : ∀ i < w.size, i ∉ s.pending → Settled w s i

theorem steady_submitted (w : Workload) : Steady w (submitted w.size) where
  accounted := accounted_submitted w
  unasked := rfl
  uncut := by simp [submitted]
  inside := by simp [submitted]
  queue_sorted := List.pairwise_lt_range
  queue_lt := fun i hi => List.mem_range.mp hi
  queue_complete := fun i hi _ => List.mem_range.mpr hi
  capacity := by simp [busy, submitted, Stage.IsBusy]
  abandoned_eq := by simp [stuck, submitted]
  withdrawn_exhausted := by simp [submitted]
  draining_exhausted := by simp [submitted]
  withdrawn_settled := by simp [submitted]
  fifo := by simp [submitted, Stage.IsServed, Stage.IsBusy]
  reached := by simp [submitted, Stage.IsServed, Stage.IsBusy]
  settled := by
    intro i hi hp
    exact absurd (List.mem_range.mpr hi) hp

namespace Steady

/-! ## What follows at once -/

theorem not_refused (h : Steady w s) (i : Nat) : s.stage i ≠ .refused := by
  intro hr
  have ha := h.accounted.refused_asked i hr
  rw [h.unasked] at ha
  cases ha

theorem not_endless_of_finished (h : Steady w s) (hf : s.stage i = .finished) : ¬w.Endless i := by
  intro he
  have hy := h.accounted.finished_returns i hf
  rw [he.2] at hy
  cases hy

theorem stuck_subset_busy (w : Workload) (s : Pool) : s.stuck w ⊆ s.busy w.size := by
  intro i hi
  simp only [stuck, busy, Finset.mem_filter] at hi ⊢
  exact ⟨hi.1, Or.inr hi.2.2.1⟩

theorem abandoned_le_busy (h : Steady w s) : s.abandoned ≤ (s.busy w.size).card := by
  rw [h.abandoned_eq]
  exact Finset.card_le_card (stuck_subset_busy w s)

/-- Once every worker is lost, the units that keep a worker are those that were given up. -/
theorem busy_eq_stuck (h : Steady w s) (lost : w.workers ≤ s.abandoned) :
    s.busy w.size = s.stuck w := by
  refine (Finset.eq_of_subset_of_card_le (stuck_subset_busy w s) ?_).symm
  rw [← h.abandoned_eq]
  exact h.capacity.trans lost

theorem not_withdrawn_of_free (h : Steady w s) (free : (s.busy w.size).card < w.workers) (i : Nat) :
    s.stage i ≠ .withdrawn := by
  intro hw
  have h1 := h.withdrawn_exhausted i hw
  have h2 := h.abandoned_le_busy
  omega

/-! ## Steps of the workers -/

/-- The unit at the head of the queue is the first of those that no worker has had. -/
private theorem head_before {rest : List Nat} (h : Steady w s) (head : s.queue = i :: rest)
    (free : (s.busy w.size).card < w.workers) {j : Nat} (hj : j < w.size)
    (waits : s.stage j = .queued ∨ s.stage j = .withdrawn) : i ≤ j := by
  rcases waits with hq | hw
  · have hm := h.queue_complete j hj hq
    have hs := h.queue_sorted
    rw [head] at hm hs
    rcases List.mem_cons.mp hm with e | hm
    · omega
    · exact Nat.le_of_lt ((List.pairwise_cons.mp hs).1 j hm)
  · exact absurd hw (h.not_withdrawn_of_free free j)

/-- A worker is left for the head of the queue: whatever never returns ahead of it keeps one. -/
private theorem head_reached {rest : List Nat} (h : Steady w s) (head : s.queue = i :: rest)
    (free : (s.busy w.size).card < w.workers) : w.IsReached i := by
  refine Nat.lt_of_le_of_lt (Finset.card_le_card ?_) free
  intro j hj
  obtain ⟨hji, he⟩ : j < i ∧ w.Endless j := by simpa [Workload.endlessBefore] using hj
  refine Finset.mem_filter.mpr ⟨Finset.mem_range.mpr he.1, ?_⟩
  cases hg : s.stage j with
  | queued => exact absurd (head_before h head free he.1 (Or.inl hg)) (by omega)
  | taken => exact Or.inl rfl
  | running => exact Or.inr rfl
  | finished => exact absurd he (h.not_endless_of_finished hg)
  | refused => exact absurd hg (h.not_refused j)
  | withdrawn => exact absurd hg (h.not_withdrawn_of_free free j)

theorem pending_of_unsettled (h : Steady w s) (hi : i < w.size)
    (unsettled : s.stage i = .queued ∨ s.stage i = .taken ∨ s.stage i = .running ∧ ¬w.Endless i) :
    i ∈ s.pending := by
  by_contra hp
  rcases h.settled i hi hp with ⟨hs, _, _⟩ | ⟨hs, he, _, _⟩ | ⟨hs, _, _⟩ <;> simp_all

/-- A worker may bring a unit on that the loop waits for and that precedes the queue. -/
private theorem serve {g : Stage} (h : Steady w s) (queue : List Nat)
    (accounted : Accounted w ({ s with queue := queue }.setStage i g)) (waits : i ∈ s.pending)
    (sub : queue.Sublist s.queue) (keep : ∀ j ∈ s.queue, j ≠ i → j ∈ queue) (served : g.IsServed)
    (capacity : (({ s with queue := queue }.setStage i g).busy w.size).card ≤ w.workers)
    (first : ∀ j < w.size, s.stage j = .queued ∨ s.stage j = .withdrawn → j ≠ i → i < j)
    (reached : w.IsReached i) : Steady w ({ s with queue := queue }.setStage i g) := by
  have stage_eq : ∀ j, ({ s with queue := queue }.setStage i g).stage j =
      if j = i then g else s.stage j := setStage_stage g
  -- The unit was pending before and is now, so what is stuck does not change.
  have hg : g ≠ .queued ∧ g ≠ .withdrawn := by
    rcases served with (e | e) | e <;> simp [e]
  have hstuck : ({ s with queue := queue }.setStage i g).stuck w = s.stuck w := by
    refine Finset.filter_congr fun j _ => ?_
    rw [stage_eq]
    by_cases e : j = i
    · simp [e, waits]
    · simp [e]
  have others : ∀ j, ({ s with queue := queue }.setStage i g).stage j = .queued ∨
      ({ s with queue := queue }.setStage i g).stage j = .withdrawn →
      j ≠ i ∧ (s.stage j = .queued ∨ s.stage j = .withdrawn) := by
    intro j hj
    rw [stage_eq] at hj
    by_cases e : j = i
    · simp [e, hg] at hj
    · exact ⟨e, by simpa [e] using hj⟩
  exact {
    accounted := accounted
    unasked := h.unasked
    uncut := h.uncut
    queue_sorted := h.queue_sorted.sublist sub
    queue_lt := fun j hj => h.queue_lt j (sub.subset hj)
    capacity := capacity
    abandoned_eq := hstuck ▸ h.abandoned_eq
    draining_exhausted := h.draining_exhausted
    inside := by
      intro j hj
      rw [stage_eq] at hj
      by_cases e : j = i
      · exact e ▸ h.accounted.pending_lt i waits
      · exact h.inside j (by simpa [e] using hj)
    queue_complete := by
      intro j hj hq
      obtain ⟨hne, -⟩ := others j (Or.inl hq)
      rw [stage_eq, if_neg hne] at hq
      exact keep j (h.queue_complete j hj hq) hne
    withdrawn_exhausted := by
      intro j hj
      obtain ⟨hne, -⟩ := others j (Or.inr hj)
      rw [stage_eq, if_neg hne] at hj
      exact h.withdrawn_exhausted j hj
    withdrawn_settled := by
      intro j hj
      obtain ⟨hne, -⟩ := others j (Or.inr hj)
      rw [stage_eq, if_neg hne] at hj
      exact h.withdrawn_settled j hj
    fifo := by
      intro j k hj hw hs
      obtain ⟨hne, hw'⟩ := others j hw
      rw [stage_eq] at hs
      by_cases e : k = i
      · exact e ▸ first j hj hw' hne
      · rw [if_neg e] at hs
        exact h.fifo j k hj hw' hs
    reached := by
      intro j hj
      rw [stage_eq] at hj
      by_cases e : j = i
      · exact e ▸ reached
      · rw [if_neg e] at hj
        exact h.reached j hj
    settled := by
      intro j hj hp
      have hne : j ≠ i := fun e => hp (e ▸ waits)
      exact (h.settled j hj hp).congr (by rw [stage_eq, if_neg hne]) rfl rfl }

private theorem busy_setStage_le {g : Stage} (h : Steady w s) (before : (s.stage i).IsBusy) :
    ((s.setStage i g).busy w.size).card ≤ w.workers := by
  refine (Finset.card_le_card ?_).trans h.capacity
  intro j hj
  simp only [busy, Finset.mem_filter, setStage_stage] at hj ⊢
  refine ⟨hj.1, ?_⟩
  by_cases e : j = i
  · exact e ▸ before
  · simpa [e] using hj.2

theorem take {rest : List Nat} (h : Steady w s) (head : s.queue = i :: rest)
    (free : (s.busy w.size).card < w.workers) :
    Steady w ({ s with queue := rest }.setStage i .taken) := by
  have hq : s.stage i = .queued := h.accounted.queue_queued i (by simp [head])
  have hi : i < w.size := h.queue_lt i (by simp [head])
  refine h.serve rest (h.accounted.step (.take s i rest head free))
    (h.pending_of_unsettled hi (Or.inl hq)) (head ▸ List.sublist_cons_self i rest) ?_
    (Or.inl (Or.inl rfl)) ?_ ?_ (head_reached h head free)
  · intro j hj hne
    rw [head] at hj
    exact (List.mem_cons.mp hj).resolve_left hne
  · refine (Finset.card_le_card (t := insert i (s.busy w.size)) ?_).trans ?_
    · intro j hj
      simp only [busy, Finset.mem_filter, Finset.mem_insert, setStage_stage] at hj ⊢
      by_cases e : j = i
      · exact Or.inl e
      · exact Or.inr ⟨hj.1, by simpa [e] using hj.2⟩
    · exact (Finset.card_insert_le _ _).trans free
  · intro j hj hw hne
    exact lt_of_le_of_ne (head_before h head free hj hw) (Ne.symm hne)

theorem start (h : Steady w s) (at_hand : s.stage i = .taken) :
    Steady w (s.setStage i (if s.endRequested then .refused else .running)) := by
  have hi := h.inside i (by simp [at_hand])
  have acc := h.accounted.step (.start s i at_hand)
  rw [h.unasked] at acc ⊢
  exact h.serve s.queue acc (h.pending_of_unsettled hi (Or.inr (Or.inl at_hand)))
    (List.Sublist.refl _) (fun _ hj _ => hj) (Or.inl (Or.inr rfl))
    (h.busy_setStage_le (Or.inl at_hand))
    (fun j hj hw _ => h.fifo j i hj hw (Or.inl (Or.inl at_hand)))
    (h.reached i (Or.inl (Or.inl at_hand)))

theorem finish (h : Steady w s) (runs : s.stage i = .running) (returns : (w.yieldAt? i).isSome) :
    Steady w (s.setStage i .finished) := by
  have hi := h.inside i (by simp [runs])
  have finite : ¬w.Endless i := by
    intro he
    rw [he.2] at returns
    cases returns
  exact h.serve s.queue (h.accounted.step (.finish s i runs returns))
    (h.pending_of_unsettled hi (Or.inr (Or.inr ⟨runs, finite⟩)))
    (List.Sublist.refl _) (fun _ hj _ => hj) (Or.inr rfl) (h.busy_setStage_le (Or.inr runs))
    (fun j hj hw _ => h.fifo j i hj hw (Or.inl (Or.inr runs)))
    (h.reached i (Or.inl (Or.inr runs)))

/-! ## Steps of the loop -/

theorem setPhase {p : Phase} (h : Steady w s) (accounted : Accounted w (s.setPhase p))
    (uncut : p ≠ .ended false) (exhausted : ∀ rest, p = .draining rest → w.workers ≤ s.abandoned) :
    Steady w (s.setPhase p) :=
  { h with
    accounted := accounted
    uncut := uncut
    draining_exhausted := exhausted
    settled := fun j hj hp => (h.settled j hj hp).congr rfl rfl rfl }

theorem collect {batch : List Nat} (h : Steady w s) (accounted : Accounted w (s.collect w batch))
    (done : ∀ i ∈ batch, i ∈ s.pending ∧ (s.stage i).IsDone) : Steady w (s.collect w batch) := by
  have finished : ∀ i ∈ batch, s.stage i = .finished := by
    intro i hi
    exact (done i hi).2.resolve_right (h.not_refused i)
  have hstuck : (s.collect w batch).stuck w = s.stuck w := by
    refine Finset.filter_congr fun j _ => ?_
    by_cases hj : j ∈ batch
    · simp [Pool.collect, finished j hj]
    · simp [Pool.collect, hj]
  refine { h with
    accounted := accounted
    abandoned_eq := hstuck ▸ h.abandoned_eq
    withdrawn_settled := ?_
    settled := ?_ }
  · intro j hj hp
    exact h.withdrawn_settled j hj (List.mem_of_mem_filter hp)
  · intro j hj hp
    by_cases hb : j ∈ batch
    · obtain ⟨hparts, hskips⟩ := h.accounted.unrecorded j (done j hb).1
      have hf := finished j hb
      exact .returned hf (by simp [Pool.collect, hb, hf, hparts])
        (by simp [Pool.collect, hb, hf, hskips])
    · have hp' : j ∉ s.pending := by
        intro hm
        exact hp (by simpa [Pool.collect, hb] using hm)
      exact (h.settled j hj hp').congr rfl (by simp [Pool.collect, hb]) (by simp [Pool.collect, hb])

theorem expire {rest : List Nat} (h : Steady w s) (sweeps : s.phase = .sweeping (i :: rest))
    (started : (s.stage i).IsStarted) (endless : w.Endless i) :
    Steady w ((s.expire w i).setPhase (.sweeping rest)) := by
  have waits : i ∈ s.pending := (h.accounted.rest_tail (i := i) (by rw [sweeps]; rfl)).2.2.1
  have runs : s.stage i = .running :=
    started.resolve_right fun hf => h.not_endless_of_finished hf endless
  have fresh : i ∉ s.stuck w := by simp [stuck, waits]
  have mem := h.accounted.mem_erase (i := i)
  have hstuck : ((s.expire w i).setPhase (.sweeping rest)).stuck w = insert i (s.stuck w) := by
    ext j
    rw [Finset.mem_insert, mem_stuck, mem_stuck]
    by_cases e : j = i
    · simp [e, endless, runs, Pool.expire, Pool.giveUp, Pool.setPhase, mem]
    · simp [e, Pool.expire, Pool.giveUp, Pool.setPhase, mem]
  refine { h with
    accounted := h.accounted.step (.expire s i rest sweeps started)
    uncut := by simp [Pool.setPhase]
    abandoned_eq := ?_
    withdrawn_exhausted := ?_
    draining_exhausted := by simp [Pool.setPhase]
    withdrawn_settled := ?_
    settled := ?_ }
  · rw [hstuck, Finset.card_insert_of_notMem fresh, ← h.abandoned_eq]
    rfl
  · intro j hj
    exact (h.withdrawn_exhausted j hj).trans (Nat.le_succ _)
  · intro j hj hp
    exact h.withdrawn_settled j hj ((mem j).mp hp).2
  · intro j hj hp
    by_cases e : j = i
    · subst e
      exact .overdue runs endless (h.accounted.unrecorded j waits).1
        (by simp [Pool.expire, Pool.giveUp, Pool.setPhase])
    · have hp' : j ∉ s.pending := fun hm => hp ((mem j).mpr ⟨e, hm⟩)
      exact (h.settled j hj hp').congr rfl rfl
        (by simp [Pool.expire, Pool.giveUp, Pool.setPhase, e])

/-- Once every worker is lost, a unit that the loop waits for and that has not started is still in
the queue. -/
theorem queued_of_unstarted (h : Steady w s) (lost : w.workers ≤ s.abandoned)
    (waits : i ∈ s.pending) (unstarted : ¬(s.stage i).IsStarted) : s.stage i = .queued := by
  cases hg : s.stage i with
  | queued => rfl
  | taken =>
      have hb : i ∈ s.busy w.size :=
        Finset.mem_filter.mpr ⟨Finset.mem_range.mpr (h.accounted.pending_lt i waits), Or.inl hg⟩
      rw [h.busy_eq_stuck lost] at hb
      simp [stuck, hg] at hb
  | running => exact absurd (Or.inl hg) unstarted
  | finished => exact absurd (Or.inr hg) unstarted
  | refused => exact absurd hg (h.not_refused i)
  | withdrawn => exact absurd waits (h.withdrawn_settled i hg)

theorem starve {rest : List Nat} (h : Steady w s) (drains : s.phase = .draining (i :: rest))
    (unstarted : ¬(s.stage i).IsStarted) :
    Steady w ((s.starve w i).setPhase (.draining rest)) := by
  have lost := h.draining_exhausted _ drains
  have waits : i ∈ s.pending := (h.accounted.rest_tail (i := i) (by rw [drains]; rfl)).2.2.1
  -- A worker that has taken the unit would be one more than there are.
  have hq := h.queued_of_unstarted lost waits unstarted
  have accounted := h.accounted.step (.starve s i rest drains unstarted)
  have mem := h.accounted.mem_erase (i := i)
  rw [Pool.starve, withdraw_of_queued hq] at accounted ⊢
  generalize ht : Pool.setPhase _ (.draining rest) = t at accounted ⊢
  have stage_eq : ∀ j, t.stage j = if j = i then .withdrawn else s.stage j :=
    fun j => ht ▸ setStage_stage (s := { s with queue := s.queue.erase i }) .withdrawn j
  have pending_eq : t.pending = s.pending.erase i := ht ▸ rfl
  have abandoned_eq : t.abandoned = s.abandoned := ht ▸ rfl
  have hstuck : t.stuck w = s.stuck w := by
    ext j
    rw [mem_stuck, mem_stuck, stage_eq, pending_eq]
    by_cases e : j = i
    · simp [e, hq]
    · simp [e, mem]
  have served : ∀ j, (t.stage j).IsServed → (s.stage j).IsServed := by
    intro j hj
    rw [stage_eq] at hj
    split at hj
    · simp [Stage.IsServed, Stage.IsBusy] at hj
    · exact hj
  exact {
    accounted := accounted
    unasked := ht ▸ h.unasked
    uncut := by simp [← ht, Pool.setPhase]
    queue_sorted := ht ▸ h.queue_sorted.sublist List.erase_sublist
    abandoned_eq := by rw [hstuck, abandoned_eq, h.abandoned_eq]
    withdrawn_exhausted := fun _ _ => abandoned_eq ▸ lost
    draining_exhausted := fun _ _ => abandoned_eq ▸ lost
    reached := fun j hj => h.reached j (served j hj)
    inside := by
      intro j hj
      rw [stage_eq] at hj
      by_cases e : j = i
      · exact e ▸ h.accounted.pending_lt i waits
      · exact h.inside j (by simpa [e] using hj)
    queue_lt := by
      intro j hj
      subst ht
      exact h.queue_lt j (List.mem_of_mem_erase hj)
    queue_complete := by
      intro j hj hqj
      rw [stage_eq] at hqj
      split at hqj
      · cases hqj
      · rename_i hne
        subst ht
        exact (List.mem_erase_of_ne hne).mpr (h.queue_complete j hj hqj)
    capacity := by
      refine (Finset.card_le_card fun j hj => ?_).trans h.capacity
      simp only [busy, Finset.mem_filter, stage_eq] at hj ⊢
      refine ⟨hj.1, ?_⟩
      by_cases e : j = i
      · simp [e, Stage.IsBusy] at hj
      · simpa [e] using hj.2
    withdrawn_settled := by
      intro j hj
      rw [pending_eq, mem, not_and_or, not_not]
      rw [stage_eq] at hj
      by_cases e : j = i
      · exact Or.inl e
      · exact Or.inr (h.withdrawn_settled j (by simpa [e] using hj))
    fifo := by
      intro j k hj hw hs
      refine h.fifo j k hj ?_ (served k hs)
      by_cases e : j = i
      · exact Or.inl (e ▸ hq)
      · simpa [stage_eq, e] using hw
    settled := by
      intro j hj hp
      rw [pending_eq, mem, not_and_or, not_not] at hp
      subst ht
      by_cases e : j = i
      · subst e
        exact .starved (by simp [stage_eq]) (h.accounted.unrecorded j waits).1
          (by simp [Pool.giveUp, Pool.setPhase])
      · refine (h.settled j hj (hp.resolve_left e)).congr (by simp [stage_eq, e]) rfl ?_
        simp [Pool.giveUp, Pool.setPhase, Pool.setStage, e] }

end Steady

/-! ## Runs -/

/-- Steps of an undisturbed run: nobody requests the end, and only units that never return are
given up for their time. -/
def Undisturbed (w : Workload) : Action → Prop
  | .request => False
  | .expire i => w.Endless i
  | _ => True

theorem Steady.step {a : Action} (h : Steady w s) (step : Step w s a t) (calm : Undisturbed w a) :
    Steady w t := by
  cases step with
  | request => exact calm.elim
  | take i rest head free => exact h.take head free
  | start i at_hand => exact h.start at_hand
  | finish i runs returns => exact h.finish runs returns
  | look polls waits unasked =>
      exact h.setPhase (h.accounted.step (.look s polls waits unasked)) (by simp)
        (by simp)
  | wake batch waits done spared =>
      have hc := h.accounted.collect (by simp [waits, Phase.rest]) (by simp [waits]) done
      exact (h.collect hc done).setPhase (h.accounted.step (.wake s batch waits done spared))
        (by simp) (by simp)
  | overdraw waits long undone =>
      exact h.setPhase (h.accounted.step (.overdraw s waits long undone)) (by simp) (by simp)
  | expire i rest sweeps started => exact h.expire sweeps started calm
  | spare i rest sweeps =>
      exact h.setPhase (h.accounted.step (.spare s i rest sweeps)) (by simp) (by simp)
  | finishSweep sweeps =>
      have accounted := h.accounted.step (.finishSweep s sweeps)
      rcases afterSweep_cases w s with ⟨lost, e⟩ | e <;> rw [e] at accounted ⊢
      · exact h.setPhase accounted (by simp) (fun _ _ => lost)
      · exact h.setPhase accounted (by simp) (by simp)
  | starve i rest drains unstarted => exact h.starve drains unstarted
  | keep i rest drains started =>
      refine h.setPhase (h.accounted.step (.keep s i rest drains started)) (by simp) ?_
      exact fun _ _ => h.draining_exhausted _ drains
  | finishDrain drains =>
      exact h.setPhase (h.accounted.step (.finishDrain s drains)) (by simp) (by simp)
  | close polls settled =>
      exact h.setPhase (h.accounted.step (.close s polls settled)) (by simp) (by simp)
  | abort batch polls waits asked done =>
      rw [h.unasked] at asked
      cases asked

theorem Run.steady {acts : List Action} (run : Run w s acts t)
    (calm : ∀ a ∈ acts, Undisturbed w a) (h : Steady w s) : Steady w t :=
  run.invariant (fun a ha _ _ step h => h.step step (calm a ha)) h

end Pool

end TacticalDesign
