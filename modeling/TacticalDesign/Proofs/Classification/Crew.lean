import Mathlib.Data.List.Basic
import Mathlib.Logic.Function.Basic
import TacticalDesign.Proofs.Except
/-!
# Jobs in the hands of a crew

Jobs are handed in one after the other. Workers take them from one queue, each does one at a time,
and they start before all jobs are handed in. Whoever asked for the results then draws them in the
order of the jobs, waiting for each. The first failure drawn is the outcome: the jobs still in the
queue are called off, and the crew closes once its workers are done. Whatever the workers do in the
meantime, the outcome is that of doing the jobs one after the other, and it comes after a bounded
number of steps.
-/

namespace TacticalDesign

namespace Crew

/-- Where the handing in of jobs and the drawing of results stand. -/
inductive Phase (ε β : Type) where
  /-- So many jobs were handed in. -/
  | handingIn (count : Nat)
  | drawing (drawn : List β)
  /-- A failure was drawn; the jobs of a list are still to be called off. -/
  | callingOff (e : ε) (rest : List Nat)
  /-- Nothing is left to draw, but workers may still be busy. -/
  | closing (outcome : Except ε (List β))
  | ended (outcome : Except ε (List β))

end Crew

/-- The state of a crew: the jobs in the queue, those in the hands of workers, and the results. -/
structure Crew (ε β : Type) where
  queue : List Nat
  busy : List Nat
  results : Nat → Option (Except ε β)
  phase : Crew.Phase ε β

namespace Crew

variable {α ε β : Type}

def start : Crew ε β where
  queue := []
  busy := []
  results := fun _ => none
  phase := .handingIn 0

def handBack (s : Crew ε β) (i : Nat) (r : Except ε β) : Crew ε β :=
  { s with busy := s.busy.erase i, results := Function.update s.results i (some r) }

theorem handBack_results (s : Crew ε β) (i j : Nat) (r : Except ε β) :
    (s.handBack i r).results j = if j = i then some r else s.results j :=
  Function.update_apply s.results i (some r) j

def setPhase (s : Crew ε β) (p : Phase ε β) : Crew ε β := { s with phase := p }

/-- The jobs behind the first `n + 1`, the last one first. -/
def behind (jobs : List α) (n : Nat) : List Nat := ((List.range jobs.length).drop (n + 1)).reverse

section Steps

variable (f : α → Except ε β) (jobs : List α) (workers : Nat)

inductive Step : Crew ε β → Crew ε β → Prop where
  | handIn (s : Crew ε β) (count : Nat) (hands : s.phase = .handingIn count)
      (more : count < jobs.length) :
      Step s ({ s with queue := s.queue ++ [count] }.setPhase (.handingIn (count + 1)))
  | allIn (s : Crew ε β) (hands : s.phase = .handingIn jobs.length) :
      Step s (s.setPhase (.drawing []))
  | take (s : Crew ε β) (i : Nat) (rest : List Nat) (head : s.queue = i :: rest)
      (free : s.busy.length < workers) :
      Step s { s with queue := rest, busy := i :: s.busy }
  | finish (s : Crew ε β) (i : Nat) (a : α) (at_work : i ∈ s.busy) (job : jobs[i]? = some a) :
      Step s (s.handBack i (f a))
  | draw (s : Crew ε β) (drawn : List β) (b : β) (draws : s.phase = .drawing drawn)
      (result : s.results drawn.length = some (.ok b)) :
      Step s (s.setPhase (.drawing (drawn ++ [b])))
  | fail (s : Crew ε β) (drawn : List β) (e : ε) (draws : s.phase = .drawing drawn)
      (result : s.results drawn.length = some (.error e)) :
      Step s (s.setPhase (.callingOff e (behind jobs drawn.length)))
  | callOff (s : Crew ε β) (e : ε) (i : Nat) (rest : List Nat)
      (calls : s.phase = .callingOff e (i :: rest)) :
      Step s ({ s with queue := s.queue.erase i }.setPhase (.callingOff e rest))
  | finishCalls (s : Crew ε β) (e : ε) (calls : s.phase = .callingOff e []) :
      Step s (s.setPhase (.closing (.error e)))
  | exhaust (s : Crew ε β) (drawn : List β) (draws : s.phase = .drawing drawn)
      (all : drawn.length = jobs.length) : Step s (s.setPhase (.closing (.ok drawn)))
  | close (s : Crew ε β) (outcome : Except ε (List β)) (closes : s.phase = .closing outcome)
      (queue_empty : s.queue = []) (idle : s.busy = []) : Step s (s.setPhase (.ended outcome))

inductive Run : Nat → Crew ε β → Crew ε β → Prop where
  | nil (s : Crew ε β) : Run 0 s s
  | cons {n : Nat} {s t u : Crew ε β} : Step f jobs workers s t → Run n t u → Run (n + 1) s u

end Steps

variable {f : α → Except ε β} {jobs : List α} {workers : Nat} {s t : Crew ε β}

/-! ## What a crew has found out -/

/-- What the phase says is so of the jobs done one after the other. -/
def Phase.Agrees (f : α → Except ε β) (jobs : List α) : Phase ε β → Prop
  | .handingIn count => count ≤ jobs.length
  | .drawing drawn => drawn.length ≤ jobs.length ∧ (jobs.take drawn.length).mapM f = .ok drawn
  | .callingOff e _ => jobs.mapM f = .error e
  | .closing outcome => jobs.mapM f = outcome
  | .ended outcome => jobs.mapM f = outcome

/-- How many of `n` jobs were handed in and none of them called off. -/
def Phase.handedIn (n : Nat) : Phase ε β → Nat
  | .handingIn count => count
  | .drawing _ => n
  | _ => 0

/-- What holds of a crew at any time: its results are those of the jobs, and as long as results are
drawn no job is lost. -/
structure Sound (f : α → Except ε β) (jobs : List α) (s : Crew ε β) : Prop where
  results_eq : ∀ i r, s.results i = some r → jobs[i]?.map f = some r
  agrees : s.phase.Agrees f jobs
  inside : ∀ i, i ∈ s.queue ∨ i ∈ s.busy → i < jobs.length
  placed : ∀ i < s.phase.handedIn jobs.length, i ∈ s.queue ∨ i ∈ s.busy ∨ (s.results i).isSome

theorem sound_start (f : α → Except ε β) (jobs : List α) : Sound f jobs start where
  results_eq := by simp [start]
  agrees := Nat.zero_le _
  inside := by simp [start]
  placed := by simp [start, Phase.handedIn]

theorem mapM_append_ok {xs ys : List α} {bs : List β} (h : xs.mapM f = .ok bs) :
    (xs ++ ys).mapM f = (ys.mapM f).map (bs ++ ·) := by
  rw [List.mapM_append, h]
  cases ys.mapM f <;> rfl

namespace Sound

theorem agrees_of (h : Sound f jobs s) {p : Phase ε β} (e : s.phase = p) : p.Agrees f jobs :=
  e ▸ h.agrees

theorem next {drawn : List β} {r : Except ε β} (h : Sound f jobs s)
    (result : s.results drawn.length = some r) :
    ∃ a, jobs[drawn.length]? = some a ∧ f a = r ∧ drawn.length < jobs.length := by
  obtain ⟨a, ha, rfl⟩ := Option.map_eq_some_iff.mp (h.results_eq _ _ result)
  exact ⟨a, ha, rfl, (List.getElem?_eq_some_iff.mp ha).1⟩

/-- A phase that asks for no more jobs than the one before has to agree with the jobs. -/
theorem setPhase (h : Sound f jobs s) {p : Phase ε β} (agrees : p.Agrees f jobs)
    (asks : p.handedIn jobs.length ≤ s.phase.handedIn jobs.length) :
    Sound f jobs (s.setPhase p) where
  results_eq := h.results_eq
  agrees := agrees
  inside := h.inside
  placed := fun i hi => h.placed i (Nat.lt_of_lt_of_le hi asks)

theorem step (h : Sound f jobs s) (step : Step f jobs workers s t) : Sound f jobs t := by
  cases step with
  | handIn count hands more =>
      refine ⟨h.results_eq, more, fun j hj => ?_, fun j hj => ?_⟩
      · rcases hj with queued | busy
        · rcases List.mem_append.mp queued with queued | last
          · exact h.inside j (Or.inl queued)
          · exact List.mem_singleton.mp last ▸ more
        · exact h.inside j (Or.inr busy)
      · rcases Nat.lt_succ_iff_lt_or_eq.mp hj with before | rfl
        · have earlier := h.placed j (by rw [hands]; exact before)
          exact earlier.imp_left (List.mem_append_left _)
        · exact Or.inl (List.mem_append_right _ List.mem_cons_self)
  | allIn hands =>
      refine h.setPhase ⟨Nat.zero_le _, rfl⟩ ?_
      rw [hands]
      exact Nat.le_refl _
  | take i rest head free =>
      refine ⟨h.results_eq, h.agrees, fun j hj => h.inside j ?_, fun j hj => ?_⟩
      · rcases hj with hj | hj
        · exact Or.inl (head ▸ List.mem_cons_of_mem i hj)
        · rcases List.mem_cons.mp hj with rfl | hj
          · exact Or.inl (head ▸ List.mem_cons_self)
          · exact Or.inr hj
      · rcases h.placed j hj with queued | busy | done
        · rw [head] at queued
          rcases List.mem_cons.mp queued with rfl | later
          · exact Or.inr (Or.inl List.mem_cons_self)
          · exact Or.inl later
        · exact Or.inr (Or.inl (List.mem_cons_of_mem i busy))
        · exact Or.inr (Or.inr done)
  | finish i a at_work job =>
      refine ⟨fun j r hr => ?_, h.agrees, fun j hj => h.inside j ?_, fun j hj => ?_⟩
      · rw [handBack_results] at hr
        split at hr
        · rename_i same
          rw [same, job, ← hr]
          rfl
        · exact h.results_eq j r hr
      · exact hj.imp_right List.mem_of_mem_erase
      · rw [handBack_results]
        by_cases same : j = i
        · exact Or.inr (Or.inr (by rw [if_pos same]; rfl))
        · rw [if_neg same]
          exact (h.placed j hj).imp_right
            (Or.imp_left (List.mem_erase_of_ne same).mpr)
  | draw drawn b draws result =>
      obtain ⟨a, at_place, done, inside⟩ := h.next result
      have before := (h.agrees_of draws).2
      refine h.setPhase ⟨?_, ?_⟩ (by rw [draws]; exact Nat.le_refl _)
      · rw [List.length_append]
        exact inside
      · rw [List.length_append, List.length_singleton, List.take_add_one, at_place,
          mapM_append_ok before, Option.toList_some, List.mapM_cons, done]
        rfl
  | fail drawn e draws result =>
      obtain ⟨a, at_place, done, inside⟩ := h.next result
      have before := (h.agrees_of draws).2
      refine h.setPhase ?_ (Nat.zero_le _)
      have split : jobs = jobs.take drawn.length ++ a :: jobs.drop (drawn.length + 1) := by
        rw [← (List.getElem?_eq_some_iff.mp at_place).2, ← List.drop_eq_getElem_cons inside,
          List.take_append_drop]
      show jobs.mapM f = .error e
      rw [split, mapM_append_ok before, List.mapM_cons, done]
      rfl
  | callOff e i rest calls =>
      refine ⟨h.results_eq, (h.agrees_of calls :), fun j hj => h.inside j ?_,
        fun _ none_left => absurd none_left (Nat.not_lt_zero _)⟩
      exact hj.imp_left List.mem_of_mem_erase
  | finishCalls e calls => exact h.setPhase (h.agrees_of calls :) (Nat.zero_le _)
  | exhaust drawn draws all =>
      have before := (h.agrees_of draws).2
      rw [all, List.take_length] at before
      exact h.setPhase before (Nat.zero_le _)
  | close outcome closes queue_empty idle => exact h.setPhase (h.agrees_of closes :) (Nat.zero_le _)

theorem run {n : Nat} (h : Sound f jobs s) (run : Run f jobs workers n s t) : Sound f jobs t := by
  induction run with
  | nil => exact h
  | cons step _ ih => exact ih (h.step step)

end Sound

/-! ## How long a crew is at work -/

/-- How many steps of whoever asked are left at most, and two for each job not handed in yet. -/
def Phase.left (n : Nat) : Phase ε β → Nat
  | .handingIn count => 3 * (n - count) + n + 3
  | .drawing drawn => n - drawn.length + 2
  | .callingOff _ rest => rest.length + 2
  | .closing _ => 1
  | .ended _ => 0

def left (n : Nat) (s : Crew ε β) : Nat := 2 * s.queue.length + s.busy.length + s.phase.left n

theorem left_start (n : Nat) : (start : Crew ε β).left n = 4 * n + 3 := by
  simp only [left, start, Phase.left, List.length_nil]
  omega

theorem length_behind (jobs : List α) (n : Nat) :
    (behind jobs n).length = jobs.length - (n + 1) := by
  simp [behind]

theorem Sound.left_step (h : Sound f jobs s) (step : Step f jobs workers s t) :
    t.left jobs.length < s.left jobs.length := by
  cases step with
  | handIn count hands more =>
      simp only [left, Crew.setPhase, hands, Phase.left, List.length_append, List.length_singleton]
      omega
  | allIn hands =>
      simp only [left, Crew.setPhase, hands, Phase.left, List.length_nil]
      omega
  | take i rest head free =>
      simp only [left, head, List.length_cons]
      omega
  | finish i a at_work job =>
      have one_less := List.length_erase_add_one at_work
      simp only [left, handBack]
      omega
  | draw drawn b draws result =>
      obtain ⟨-, -, -, inside⟩ := h.next result
      simp only [left, Crew.setPhase, draws, Phase.left, List.length_append, List.length_singleton]
      omega
  | fail drawn e draws result =>
      obtain ⟨-, -, -, inside⟩ := h.next result
      simp only [left, Crew.setPhase, draws, Phase.left, length_behind]
      omega
  | callOff e i rest calls =>
      have fewer := List.length_erase_le (a := i) (l := s.queue)
      simp only [left, Crew.setPhase, calls, Phase.left, List.length_cons]
      omega
  | finishCalls e calls =>
      simp only [left, Crew.setPhase, calls, Phase.left, List.length_nil]
      omega
  | exhaust drawn draws all =>
      simp only [left, Crew.setPhase, draws, Phase.left]
      omega
  | close outcome closes queue_empty idle =>
      simp only [left, Crew.setPhase, closes, Phase.left]
      omega

theorem Sound.left_run {n : Nat} (h : Sound f jobs s) (run : Run f jobs workers n s t) :
    n + t.left jobs.length ≤ s.left jobs.length := by
  induction run with
  | nil => omega
  | cons step _ ih =>
      have first := h.left_step step
      have later := ih (h.step step)
      omega

theorem Sound.can_work (h : Sound f jobs s) (some_worker : 0 < workers)
    (some_job : s.queue ≠ [] ∨ s.busy ≠ []) : ∃ t, Step f jobs workers s t := by
  cases hbusy : s.busy with
  | nil =>
      cases hqueue : s.queue with
      | nil => simp [hbusy, hqueue] at some_job
      | cons i rest => exact ⟨_, .take s i rest hqueue (by rw [hbusy]; exact some_worker)⟩
  | cons i rest =>
      have at_work : i ∈ s.busy := hbusy ▸ List.mem_cons_self
      have job := List.getElem?_eq_getElem (h.inside i (Or.inr at_work))
      exact ⟨_, .finish s i _ at_work job⟩

theorem Sound.can_step (h : Sound f jobs s) (some_worker : 0 < workers)
    (not_ended : ∀ outcome, s.phase ≠ .ended outcome) : ∃ t, Step f jobs workers s t := by
  cases hphase : s.phase with
  | handingIn count =>
      rcases Nat.lt_or_eq_of_le (h.agrees_of hphase :) with more | rfl
      · exact ⟨_, .handIn s count hphase more⟩
      · exact ⟨_, .allIn s hphase⟩
  | drawing drawn =>
      rcases Nat.lt_or_eq_of_le (h.agrees_of hphase).1 with more | all
      · rcases h.placed drawn.length (by rw [hphase]; exact more) with queued | busy | done
        · exact h.can_work some_worker (Or.inl (List.ne_nil_of_mem queued))
        · exact h.can_work some_worker (Or.inr (List.ne_nil_of_mem busy))
        · obtain ⟨r, hr⟩ := Option.isSome_iff_exists.mp done
          cases r with
          | ok b => exact ⟨_, .draw s drawn b hphase hr⟩
          | error e => exact ⟨_, .fail s drawn e hphase hr⟩
      · exact ⟨_, .exhaust s drawn hphase all⟩
  | callingOff e rest =>
      cases rest with
      | nil => exact ⟨_, .finishCalls s e hphase⟩
      | cons i rest => exact ⟨_, .callOff s e i rest hphase⟩
  | closing outcome =>
      by_cases some_job : s.queue ≠ [] ∨ s.busy ≠ []
      · exact h.can_work some_worker some_job
      · obtain ⟨queue_empty, idle⟩ := not_or.mp some_job
        exact ⟨_, .close s outcome hphase (not_not.mp queue_empty) (not_not.mp idle)⟩
  | ended outcome => exact absurd hphase (not_ended outcome)

theorem Sound.can_end (h : Sound f jobs s) (some_worker : 0 < workers) :
    ∃ n t outcome, Run f jobs workers n s t ∧ t.phase = .ended outcome := by
  induction size : s.left jobs.length using Nat.strongRecOn generalizing s with
  | _ size ih =>
      by_cases not_ended : ∀ outcome, s.phase ≠ .ended outcome
      · obtain ⟨t, step⟩ := h.can_step some_worker not_ended
        obtain ⟨n, u, outcome, run, ended⟩ :=
          ih _ (size ▸ h.left_step step) (h.step step) rfl
        exact ⟨n + 1, u, outcome, .cons step run, ended⟩
      · push Not at not_ended
        obtain ⟨outcome, ended⟩ := not_ended
        exact ⟨0, s, outcome, .nil s, ended⟩

/-! ## From the start -/

/-- A crew takes at most four steps for each job and three more, and the only outcome that it may
end with is that of the jobs done one after the other. -/
theorem run_from_start {n : Nat} (run : Run f jobs workers n start s) :
    n ≤ 4 * jobs.length + 3 ∧ ∀ outcome, s.phase = .ended outcome → outcome = jobs.mapM f := by
  have sound := sound_start f jobs
  refine ⟨?_, fun outcome ended => ((sound.run run).agrees_of ended).symm⟩
  have bound := sound.left_run run
  rw [left_start] at bound
  omega

end Crew

end TacticalDesign
