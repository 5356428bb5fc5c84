import Mathlib.Algebra.BigOperators.Group.Finset.Basic
import TacticalDesign.Proofs.Pool.Steady
/-!
# An undisturbed pool comes to an end

The work left in a pool goes down with every step that advances it and never goes up, so all but
finitely many steps of a run wait and look around in vain. From wherever an undisturbed run has
come to, it can go on until its loop has ended, or has failed in a wait that is too long.
-/

namespace TacticalDesign

namespace Pool

variable {w : Workload} {s t u : Pool} {i : Nat}

/-! ## Work -/

def Stage.weight : Stage → Nat
  | .queued => 3
  | .taken => 2
  | .running => 1
  | _ => 0

/-- The steps of workers and the settlements that are still to come at most. -/
def work (n : Nat) (s : Pool) : Nat :=
  (∑ i ∈ Finset.range n, (s.stage i).weight) + s.pending.length

def Action.advances : Action → Bool
  | .take _ | .start _ | .finish _ | .expire _ | .starve _ => true
  | .wake batch => !batch.isEmpty
  | _ => false

theorem work_submitted (n : Nat) : (submitted n).work n = 4 * n := by
  simp [work, submitted, Stage.weight]
  omega

theorem work_setStage {n : Nat} (hi : i < n) (g : Stage) :
    (s.setStage i g).work n + (s.stage i).weight = s.work n + g.weight := by
  have hm := Finset.mem_range.mpr hi
  have hsum := Finset.add_sum_erase (Finset.range n) (fun j => (s.stage j).weight) hm
  have hsum' := Finset.add_sum_erase (Finset.range n)
    (fun j => ((s.setStage i g).stage j).weight) hm
  have hrest : ∑ j ∈ (Finset.range n).erase i, ((s.setStage i g).stage j).weight =
      ∑ j ∈ (Finset.range n).erase i, (s.stage j).weight := by
    refine Finset.sum_congr rfl fun j hj => ?_
    rw [setStage_stage, if_neg (Finset.ne_of_mem_erase hj)]
  have hself : ((s.setStage i g).stage i).weight = g.weight := by rw [setStage_stage, if_pos rfl]
  simp only [hself, hrest] at hsum'
  simp only [work, setStage_pending]
  omega

theorem work_giveUp (n : Nat) (skip : Option SkippedUnit) (hi : i ∈ s.pending) :
    (s.giveUp i skip).work n + 1 = s.work n := by
  have hlen := List.length_erase_add_one hi
  simp only [work, giveUp]
  omega

theorem work_collect (n : Nat) (batch : List Nat) : (s.collect w batch).work n ≤ s.work n := by
  have := List.length_filter_le (· ∉ batch) s.pending
  simp only [work, collect]
  omega

theorem work_collect_lt (n : Nat) {batch : List Nat} (hi : i ∈ s.pending) (hb : i ∈ batch) :
    (s.collect w batch).work n < s.work n := by
  have hlt : (s.pending.filter (· ∉ batch)).length < s.pending.length :=
    List.length_filter_lt_length_iff_exists.mpr ⟨i, hi, by simpa using hb⟩
  simp only [work, collect]
  omega

/-- No step of an undisturbed run makes work, and a step that advances takes some away. -/
theorem Steady.work_step {a : Action} (h : Steady w s) (step : Step w s a t) :
    t.work w.size + a.advances.toNat ≤ s.work w.size := by
  cases step with
  | take i rest head free =>
      have hq := h.accounted.queue_queued i (by simp [head])
      have hw :=
        work_setStage (s := { s with queue := rest }) (h.queue_lt i (by simp [head])) .taken
      simp only [hq, Stage.weight] at hw
      exact Nat.le_of_succ_le_succ (Nat.le_of_succ_le_succ hw.le)
  | start i at_hand =>
      have hw := work_setStage (s := s) (h.inside i (by simp [at_hand])) .running
      rw [h.unasked]
      simp only [at_hand, Stage.weight] at hw
      exact Nat.le_of_succ_le_succ hw.le
  | finish i runs returns =>
      have hw := work_setStage (s := s) (h.inside i (by simp [runs])) .finished
      simp only [runs, Stage.weight] at hw
      exact hw.le
  | wake batch waits done spared =>
      cases batch with
      | nil => exact work_collect (w := w) (s := s) w.size []
      | cons i batch =>
          exact work_collect_lt (w := w) w.size (done i List.mem_cons_self).1 List.mem_cons_self
  | expire i rest sweeps started =>
      have waits := (h.accounted.rest_tail (i := i) (by rw [sweeps]; rfl)).2.2.1
      exact (work_giveUp (s := { s with abandoned := s.abandoned + 1 }) w.size (w.overdueAt? i)
        waits).le
  | starve i rest drains unstarted =>
      have lost := h.draining_exhausted _ drains
      have waits := (h.accounted.rest_tail (i := i) (by rw [drains]; rfl)).2.2.1
      have hq := h.queued_of_unstarted lost waits unstarted
      have drawn : (s.withdraw i).work w.size ≤ s.work w.size := by
        have hw := work_setStage (s := { s with queue := s.queue.erase i })
          (h.accounted.pending_lt i waits) .withdrawn
        rw [withdraw_of_queued hq]
        exact (Nat.le_add_right _ _).trans hw.le
      have given := work_giveUp (s := s.withdraw i) w.size (w.starvedAt? i) (by simpa using waits)
      exact given.le.trans drawn
  | abort batch polls waits asked done =>
      exact work_collect (w := w) (s := s) w.size batch
  | _ => exact Nat.le_refl _

theorem Run.advances_le {acts : List Action} (run : Run w s acts t)
    (calm : ∀ a ∈ acts, Undisturbed w a) (h : Steady w s) :
    acts.countP (·.advances) + t.work w.size ≤ s.work w.size := by
  induction run with
  | nil => simp
  | @cons s t u a acts step _ ih =>
      have hstep := h.work_step step
      have hrest := ih (fun b hb => calm b (List.mem_cons_of_mem a hb))
        (h.step step (calm a List.mem_cons_self))
      rw [List.countP_cons]
      cases ha : a.advances <;> simp only [ha, Bool.toNat_true, Bool.toNat_false] at hstep
      · simp only [Bool.false_eq_true, if_false]
        omega
      · simp only [if_true]
        omega

/-! ## Going on -/

def Leads (w : Workload) (s t : Pool) : Prop :=
  ∃ acts, (∀ a ∈ acts, Undisturbed w a) ∧ Run w s acts t

namespace Leads

theorem refl (w : Workload) (s : Pool) : Leads w s s := ⟨[], by simp, .nil s⟩

theorem single {a : Action} (step : Step w s a t) (calm : Undisturbed w a) : Leads w s t :=
  ⟨[a], by simpa using calm, .single step⟩

theorem trans (h : Leads w s t) (k : Leads w t u) : Leads w s u := by
  obtain ⟨as, ha, hr⟩ := h
  obtain ⟨bs, hb, kr⟩ := k
  refine ⟨as ++ bs, ?_, hr.append kr⟩
  intro a hm
  exact (List.mem_append.mp hm).elim (ha a) (hb a)

theorem steady (h : Leads w s t) (hs : Steady w s) : Steady w t := by
  obtain ⟨acts, calm, run⟩ := h
  exact run.steady calm hs

theorem work_le (h : Leads w s t) (hs : Steady w s) : t.work w.size ≤ s.work w.size := by
  obtain ⟨acts, calm, run⟩ := h
  have := run.advances_le calm hs
  omega

theorem work_lt {a : Action} (h : Leads w s t) (hs : Steady w s) (step : Step w t a u)
    (advances : a.advances = true) : u.work w.size < s.work w.size := by
  have h1 := h.work_le hs
  have h2 := (h.steady hs).work_step step
  rw [advances] at h2
  exact Nat.lt_of_lt_of_le h2 h1

end Leads

theorem leads_spare (w : Workload) (skipped rest : List Nat)
    (sweeps : s.phase = .sweeping (skipped ++ rest)) :
    Leads w s (s.setPhase (.sweeping rest)) := by
  induction skipped generalizing s with
  | nil =>
      have e : s.setPhase (.sweeping rest) = s := by
        cases s
        simpa [setPhase] using sweeps.symm
      rw [e]
      exact .refl w s
  | cons i skipped ih =>
      exact (Leads.single (.spare s i _ sweeps) trivial).trans
        (ih (s := s.setPhase (.sweeping (skipped ++ rest))) rfl)

theorem leads_drain {rest : List Nat} (drains : s.phase = .draining rest) :
    ∃ t, Leads w s t ∧ t.phase = .polling := by
  induction rest generalizing s with
  | nil => exact ⟨_, .single (.finishDrain s drains) trivial, rfl⟩
  | cons i rest ih =>
      by_cases hi : (s.stage i).IsStarted
      · obtain ⟨t, ht, polls⟩ := ih (s := s.setPhase (.draining rest)) rfl
        exact ⟨t, (Leads.single (.keep s i rest drains hi) trivial).trans ht, polls⟩
      · obtain ⟨t, ht, polls⟩ := ih (s := (s.starve w i).setPhase (.draining rest)) rfl
        exact ⟨t, (Leads.single (.starve s i rest drains hi) trivial).trans ht, polls⟩

theorem leads_sweep {rest : List Nat} (sweeps : s.phase = .sweeping rest) :
    ∃ t, Leads w s t ∧ t.phase = .polling := by
  have spared : Leads w s (s.setPhase (.sweeping [])) :=
    leads_spare w rest [] (by simpa using sweeps)
  have swept := spared.trans (.single (.finishSweep (s.setPhase (.sweeping [])) rfl) trivial)
  rcases afterSweep_cases w (s.setPhase (.sweeping [])) with ⟨-, e⟩ | e <;> rw [e] at swept
  · obtain ⟨t, ht, polls⟩ := leads_drain (w := w)
      (s := (s.setPhase (.sweeping [])).setPhase (.draining s.pending)) rfl
    exact ⟨t, swept.trans ht, polls⟩
  · exact ⟨_, swept, rfl⟩

/-- A loop that neither has come to an end nor waits for too long comes back to looking for a
request. -/
theorem leads_polling (going : ∀ c, s.phase ≠ .ended c) (sound : s.phase ≠ .overdrawn)
    (wakes : s.phase = .waiting → ¬w.Overlong) : ∃ t, Leads w s t ∧ t.phase = .polling := by
  cases hp : s.phase with
  | polling => exact ⟨s, .refl w s, hp⟩
  | waiting =>
      have woken : Leads w s _ :=
        .single (.wake s [] hp (by simp) fun long => absurd long (wakes hp)) trivial
      obtain ⟨t, ht, polls⟩ := leads_sweep (w := w) (s := (s.collect w []).setPhase
        (.sweeping (s.pending.filter (· ∉ [])))) rfl
      exact ⟨t, woken.trans ht, polls⟩
  | sweeping rest => exact leads_sweep hp
  | draining rest => exact leads_drain hp
  | ended c => exact absurd hp (going c)
  | overdrawn => exact absurd hp sound

/-- A wait that is not too long may find nothing done, and the loop looks at the times of all
units. -/
theorem leads_sweeping (h : Steady w s) (short : ¬w.Overlong) (polls : s.phase = .polling)
    (waits : s.pending ≠ []) :
    Leads w s (((s.setPhase .waiting).collect w []).setPhase (.sweeping s.pending)) := by
  have looked : Leads w s (s.setPhase .waiting) :=
    .single (.look s polls waits h.unasked) trivial
  have woken := Step.wake (w := w) (s.setPhase .waiting) [] rfl (by simp)
    fun long => absurd long short
  have hp : (s.setPhase .waiting).pending.filter (· ∉ []) = s.pending := by simp [setPhase]
  rw [hp] at woken
  exact looked.trans (.single woken trivial)

/-- Where nothing else can be done, every worker is lost. -/
private theorem Steady.exhausted (h : Steady w s) (full : w.workers ≤ (s.busy w.size).card)
    (untaken : ∀ i < w.size, s.stage i ≠ .taken)
    (endless : ∀ i < w.size, s.stage i = .running → w.Endless i)
    (given : ∀ i < w.size, s.stage i = .running → i ∉ s.pending) : w.workers ≤ s.abandoned := by
  refine full.trans ?_
  rw [h.abandoned_eq]
  refine Finset.card_le_card fun i hi => ?_
  obtain ⟨hr, hb⟩ := Finset.mem_filter.mp hi
  have hlt := Finset.mem_range.mp hr
  have runs := hb.resolve_left (untaken i hlt)
  exact mem_stuck.mpr ⟨endless i hlt runs, runs, given i hlt runs⟩

/-- While the loop waits for a unit, some step that advances is near: a worker goes on, a finished
unit is collected, a unit that never returns is given up, or, when every worker is lost, one that
has not started. -/
theorem Steady.can_advance (h : Steady w s) (short : ¬w.Overlong) (polls : s.phase = .polling)
    (waits : s.pending ≠ []) :
    ∃ t a u, Leads w s t ∧ Step w t a u ∧ Undisturbed w a ∧ a.advances = true := by
  -- Workers go on first, then the loop collects, gives up, and last of all drains the queue.
  by_cases taken : ∃ i, s.stage i = .taken
  · obtain ⟨i, hi⟩ := taken
    exact ⟨s, _, _, .refl w s, .start s i hi, trivial, rfl⟩
  by_cases returns : ∃ i, s.stage i = .running ∧ (w.yieldAt? i).isSome
  · obtain ⟨i, hi, hy⟩ := returns
    exact ⟨s, _, _, .refl w s, .finish s i hi hy, trivial, rfl⟩
  by_cases done : ∃ i ∈ s.pending, s.stage i = .finished
  · obtain ⟨i, hi, hf⟩ := done
    have looked : Leads w s (s.setPhase .waiting) :=
      .single (.look s polls waits h.unasked) trivial
    exact ⟨_, _, _, looked, .wake _ [i] rfl (by simp [hi, hf, Stage.IsDone]) (by simp), trivial,
      rfl⟩
  have swept := leads_sweeping h short polls waits
  by_cases overdue : ∃ i ∈ s.pending, s.stage i = .running
  · obtain ⟨i, hi, hr⟩ := overdue
    obtain ⟨before, rest, hsplit⟩ := List.append_of_mem hi
    have spared := swept.trans (leads_spare w before (i :: rest) (by simp [hsplit]))
    have endless : w.Endless i :=
      ⟨h.accounted.pending_lt i hi, by simpa using fun hy => returns ⟨i, hr, hy⟩⟩
    exact ⟨_, _, _, spared, .expire _ i rest rfl (Or.inl hr), endless, rfl⟩
  -- Whatever the loop still waits for is in the queue.
  have queued : ∀ i ∈ s.pending, s.stage i = .queued := by
    intro i hi
    cases hg : s.stage i with
    | queued => rfl
    | taken => exact absurd ⟨i, hg⟩ taken
    | running => exact absurd ⟨i, hi, hg⟩ overdue
    | finished => exact absurd ⟨i, hi, hg⟩ done
    | refused => exact absurd hg (h.not_refused i)
    | withdrawn => exact absurd hi (h.withdrawn_settled i hg)
  obtain ⟨i, rest, hpending⟩ := List.exists_cons_of_ne_nil waits
  have hi : i ∈ s.pending := by simp [hpending]
  by_cases free : (s.busy w.size).card < w.workers
  · have hq := h.queue_complete i (h.accounted.pending_lt i hi) (queued i hi)
    obtain ⟨j, tail, head⟩ := List.exists_cons_of_ne_nil (List.ne_nil_of_mem hq)
    exact ⟨s, _, _, .refl w s, .take s j tail head free, trivial, rfl⟩
  · have lost : w.workers ≤ s.abandoned := by
      refine h.exhausted (Nat.le_of_not_lt free) (fun j _ hj => taken ⟨j, hj⟩) ?_ ?_
      · intro j hj hr
        exact ⟨hj, by simpa using fun hy => returns ⟨j, hr, hy⟩⟩
      · exact fun j _ hr hp => overdue ⟨j, hp, hr⟩
    have spared := swept.trans (leads_spare w s.pending [] (by simp))
    generalize ht : Pool.setPhase _ (.sweeping []) = t at spared
    have sweeps : t.phase = .sweeping [] := ht ▸ rfl
    have pending_eq : t.pending = i :: rest := by
      rw [← hpending, ← ht]
      simp [Pool.collect]
    have unstarted : ¬(t.stage i).IsStarted := by
      rw [← ht]
      simp [Pool.collect, queued i hi, Stage.IsStarted]
    have drains : t.afterSweep w = .draining (i :: rest) := by
      rw [afterSweep, pending_eq, if_pos ⟨ht ▸ lost, List.cons_ne_nil i rest⟩]
    have swept := Step.finishSweep (w := w) t sweeps
    rw [drains] at swept
    exact ⟨_, _, _, spared.trans (.single swept trivial), .starve _ i rest rfl unstarted, trivial,
      rfl⟩

theorem Steady.leads_overlong (h : Steady w s) (long : w.Overlong) (waits : s.phase = .waiting) :
    ∃ t, Leads w s t ∧ (t.phase = .overdrawn ∨ t.work w.size < s.work w.size) := by
  by_cases done : ∃ i ∈ s.pending, (s.stage i).IsDone
  · obtain ⟨i, hi, hd⟩ := done
    have woken := Step.wake (w := w) s [i] waits (by simp [hi, hd]) (by simp)
    exact ⟨_, .single woken trivial, Or.inr ((Leads.refl w s).work_lt h woken rfl)⟩
  · have failed := Step.overdraw s waits long fun i hi hd => done ⟨i, hi, hd⟩
    exact ⟨_, .single failed trivial, Or.inl rfl⟩

theorem Steady.can_go_on (h : Steady w s) (going : s.phase ≠ .ended true)
    (sound : s.phase ≠ .overdrawn) :
    ∃ t, Leads w s t ∧
      (t.phase = .ended true ∨ t.phase = .overdrawn ∨ t.work w.size < s.work w.size) := by
  by_cases overlong : s.phase = .waiting ∧ w.Overlong
  · obtain ⟨t, ht, come⟩ := h.leads_overlong overlong.2 overlong.1
    exact ⟨t, ht, Or.inr come⟩
  have running : ∀ c, s.phase ≠ .ended c := by
    intro c
    cases c
    · exact h.uncut
    · exact going
  obtain ⟨t, ht, polls⟩ :=
    leads_polling (w := w) running sound fun waits long => overlong ⟨waits, long⟩
  have steady := ht.steady h
  by_cases waits : t.pending = []
  · exact ⟨_, ht.trans (.single (.close t polls waits) trivial), Or.inl rfl⟩
  by_cases long : w.Overlong
  · have looked := ht.trans (.single (.look t polls waits steady.unasked) trivial)
    obtain ⟨u, hu, come⟩ := (looked.steady h).leads_overlong long rfl
    have less := looked.work_le h
    exact ⟨u, looked.trans hu, Or.inr (come.imp_right (Nat.lt_of_lt_of_le · less))⟩
  · obtain ⟨u, a, v, hu, step, calm, advances⟩ := steady.can_advance long polls waits
    have lead := ht.trans hu
    exact ⟨v, lead.trans (.single step calm), Or.inr (Or.inr (lead.work_lt h step advances))⟩

/-- From wherever it stands, an undisturbed pool can go on to the end, or to a wait that fails. -/
theorem Steady.can_end (h : Steady w s) :
    ∃ t, Leads w s t ∧ (t.phase = .ended true ∨ t.phase = .overdrawn) := by
  induction hn : s.work w.size using Nat.strong_induction_on generalizing s with
  | _ n ih =>
      by_cases stands : s.phase = .ended true ∨ s.phase = .overdrawn
      · exact ⟨s, .refl w s, stands⟩
      obtain ⟨going, sound⟩ := not_or.mp stands
      obtain ⟨t, ht, ended | failed | less⟩ := h.can_go_on going sound
      · exact ⟨t, ht, Or.inl ended⟩
      · exact ⟨t, ht, Or.inr failed⟩
      · obtain ⟨u, hu, stands⟩ := ih _ (hn ▸ less) (ht.steady h) rfl
        exact ⟨u, ht.trans hu, stands⟩

end Pool

end TacticalDesign
