import Mathlib.Data.Finset.Card
import Mathlib.Data.Finset.Range
import Mathlib.Logic.Function.Basic
import TacticalDesign.Build
/-!
# The pool of workers

Extraction as it runs: workers take units from one queue in the order of the units, while a loop
waits for finished units, gives up those that have run for too long, and, once every worker is
lost, those that have not started. Somebody may ask for the end of the run at any moment. A wait
for longer than a clock can tell fails unless something is done by then.

`Step` lists what can happen next and `Run` puts steps together. The queue is filled before the
first step: a worker only ever takes the head of the queue, so a unit that is handed in later
changes nothing for those before it. No step mentions time. When a unit is given up is left open,
and so is which of the finished units one wait returns.
-/

namespace TacticalDesign

namespace Yield

def part? : Yield → Option PartialGraph
  | part p => some p
  | skip _ => none

def skip? : Yield → Option SkippedUnit
  | part _ => none
  | skip s => some s

theorem part?_or_skip? (y : Yield) : y.part?.isSome ∨ y.skip?.isSome := by
  cases y with
  | part p => exact Or.inl rfl
  | skip s => exact Or.inr rfl

theorem not_part?_and_skip? (y : Yield) : ¬(y.part?.isSome ∧ y.skip?.isSome) := by
  cases y <;> simp [part?, skip?]

end Yield

/-- Units to extract with a number of workers under a time limit, by a loop that waits for an
interval at a time. -/
structure Workload where
  units : List SourceUnit
  limit : Float
  workers : Nat
  interval : Float

namespace Workload

variable (w : Workload)

def size : Nat := w.units.length

def Overlong : Prop := Build.longestWait < w.interval

instance : Decidable w.Overlong := inferInstanceAs (Decidable (_ < _))

def yieldAt? (i : Nat) : Option Yield := w.units[i]?.bind (·.yield?)

def partAt? (i : Nat) : Option PartialGraph := (w.yieldAt? i).bind (·.part?)

def failureAt? (i : Nat) : Option SkippedUnit := (w.yieldAt? i).bind (·.skip?)

def overdueAt? (i : Nat) : Option SkippedUnit := w.units[i]?.map (·.overdue w.limit)

def starvedAt? (i : Nat) : Option SkippedUnit := w.units[i]?.map (·.starved)

def Endless (i : Nat) : Prop := i < w.size ∧ w.yieldAt? i = none

instance (i : Nat) : Decidable (w.Endless i) :=
  decidable_of_iff (i < w.size ∧ (w.yieldAt? i).isNone = true) (by simp [Endless])

theorem overdueAt?_isSome {i : Nat} (h : i < w.size) : (w.overdueAt? i).isSome := by
  simpa [overdueAt?, size] using h

theorem starvedAt?_isSome {i : Nat} (h : i < w.size) : (w.starvedAt? i).isSome := by
  simpa [starvedAt?, size] using h

end Workload

namespace Pool

inductive Stage where
  | queued
  /-- In the hands of a worker that has not looked for a request to end yet. -/
  | taken
  | running
  | finished
  /-- Not started, because the end had been requested. -/
  | refused
  /-- Drawn back from the queue. -/
  | withdrawn
  deriving DecidableEq

/-- Whether the result of a unit can be asked for. -/
def Stage.IsDone (g : Stage) : Prop := g = .finished ∨ g = .refused

def Stage.IsStarted (g : Stage) : Prop := g = .running ∨ g = .finished

def Stage.IsBusy (g : Stage) : Prop := g = .taken ∨ g = .running

instance (g : Stage) : Decidable g.IsBusy := inferInstanceAs (Decidable (_ ∨ _))

/-- Where the loop stands; a pass goes through the units of a list. -/
inductive Phase where
  | polling
  | waiting
  | sweeping (rest : List Nat)
  | draining (rest : List Nat)
  | ended (complete : Bool)
  /-- A wait has failed, and the loop with it. -/
  | overdrawn
  deriving DecidableEq

def Phase.rest : Phase → List Nat
  | sweeping rest => rest
  | draining rest => rest
  | _ => []

end Pool

/-- The state of an extraction: the queue of the workers, the stage of every unit, and what the
loop keeps track of. -/
structure Pool where
  queue : List Nat
  stage : Nat → Pool.Stage
  /-- The units that the loop still waits for, in order. -/
  pending : List Nat
  parts : Nat → Option PartialGraph
  skips : Nat → Option SkippedUnit
  /-- How many workers were lost to units that were given up. -/
  abandoned : Nat
  endRequested : Bool
  phase : Pool.Phase

namespace Pool

def submitted (n : Nat) : Pool where
  queue := List.range n
  stage := fun _ => .queued
  pending := List.range n
  parts := fun _ => none
  skips := fun _ => none
  abandoned := 0
  endRequested := false
  phase := .polling

def busy (n : Nat) (s : Pool) : Finset Nat := (Finset.range n).filter fun i => (s.stage i).IsBusy

def setStage (s : Pool) (i : Nat) (g : Stage) : Pool :=
  { s with stage := Function.update s.stage i g }

def setPhase (s : Pool) (p : Phase) : Pool := { s with phase := p }

/-- Takes the results of a batch of units. A refused unit has none. -/
def collect (w : Workload) (batch : List Nat) (s : Pool) : Pool :=
  { s with
    pending := s.pending.filter (· ∉ batch)
    parts := fun i =>
      if i ∈ batch ∧ s.stage i = .finished then (w.partAt? i).or (s.parts i) else s.parts i
    skips := fun i =>
      if i ∈ batch ∧ s.stage i = .finished then (w.failureAt? i).or (s.skips i) else s.skips i }

def giveUp (i : Nat) (skip : Option SkippedUnit) (s : Pool) : Pool :=
  { s with pending := s.pending.erase i, skips := Function.update s.skips i skip }

/-- Draws a unit back if it is still in the queue. -/
def withdraw (i : Nat) (s : Pool) : Pool :=
  if s.stage i = .queued then { s with queue := s.queue.erase i }.setStage i .withdrawn else s

/-- Gives up a unit that has run for too long; its worker is lost. -/
def expire (w : Workload) (i : Nat) (s : Pool) : Pool :=
  { s with abandoned := s.abandoned + 1 }.giveUp i (w.overdueAt? i)

def starve (w : Workload) (i : Nat) (s : Pool) : Pool :=
  (s.withdraw i).giveUp i (w.starvedAt? i)

def afterSweep (w : Workload) (s : Pool) : Phase :=
  if w.workers ≤ s.abandoned ∧ s.pending ≠ [] then .draining s.pending else .polling

/-- One thing that happens: something that is done from outside, by a worker, or by the loop. -/
inductive Action where
  | request
  | take (i : Nat)
  | start (i : Nat)
  | finish (i : Nat)
  | look
  | wake (batch : List Nat)
  | overdraw
  | expire (i : Nat)
  | spare (i : Nat)
  | finishSweep
  | starve (i : Nat)
  | keep (i : Nat)
  | finishDrain
  | close
  | abort (batch : List Nat)

/-- What can happen to a pool. A worker looks for a request when it starts a unit, the loop each
time before it waits. A wait that is too long returns only what is done before it has begun. -/
inductive Step (w : Workload) : Pool → Action → Pool → Prop where
  | request (s : Pool) : Step w s .request { s with endRequested := true }
  | take (s : Pool) (i : Nat) (rest : List Nat) (head : s.queue = i :: rest)
      (free : (s.busy w.size).card < w.workers) :
      Step w s (.take i) ({ s with queue := rest }.setStage i .taken)
  | start (s : Pool) (i : Nat) (at_hand : s.stage i = .taken) :
      Step w s (.start i) (s.setStage i (if s.endRequested then .refused else .running))
  | finish (s : Pool) (i : Nat) (runs : s.stage i = .running) (returns : (w.yieldAt? i).isSome) :
      Step w s (.finish i) (s.setStage i .finished)
  | look (s : Pool) (polls : s.phase = .polling) (waits : s.pending ≠ [])
      (unasked : s.endRequested = false) : Step w s .look (s.setPhase .waiting)
  | wake (s : Pool) (batch : List Nat) (waits : s.phase = .waiting)
      (done : ∀ i ∈ batch, i ∈ s.pending ∧ (s.stage i).IsDone)
      (spared : w.Overlong → batch ≠ []) :
      Step w s (.wake batch) ((s.collect w batch).setPhase
        (.sweeping (s.pending.filter (· ∉ batch))))
  | overdraw (s : Pool) (waits : s.phase = .waiting) (long : w.Overlong)
      (undone : ∀ i ∈ s.pending, ¬(s.stage i).IsDone) :
      Step w s .overdraw (s.setPhase .overdrawn)
  | expire (s : Pool) (i : Nat) (rest : List Nat) (sweeps : s.phase = .sweeping (i :: rest))
      (started : (s.stage i).IsStarted) :
      Step w s (.expire i) ((s.expire w i).setPhase (.sweeping rest))
  | spare (s : Pool) (i : Nat) (rest : List Nat) (sweeps : s.phase = .sweeping (i :: rest)) :
      Step w s (.spare i) (s.setPhase (.sweeping rest))
  | finishSweep (s : Pool) (sweeps : s.phase = .sweeping []) :
      Step w s .finishSweep (s.setPhase (s.afterSweep w))
  | starve (s : Pool) (i : Nat) (rest : List Nat) (drains : s.phase = .draining (i :: rest))
      (unstarted : ¬(s.stage i).IsStarted) :
      Step w s (.starve i) ((s.starve w i).setPhase (.draining rest))
  | keep (s : Pool) (i : Nat) (rest : List Nat) (drains : s.phase = .draining (i :: rest))
      (started : (s.stage i).IsStarted) :
      Step w s (.keep i) (s.setPhase (.draining rest))
  | finishDrain (s : Pool) (drains : s.phase = .draining []) :
      Step w s .finishDrain (s.setPhase .polling)
  | close (s : Pool) (polls : s.phase = .polling) (settled : s.pending = []) :
      Step w s .close (s.setPhase (.ended true))
  | abort (s : Pool) (batch : List Nat) (polls : s.phase = .polling) (waits : s.pending ≠ [])
      (asked : s.endRequested = true) (done : ∀ i ∈ batch, i ∈ s.pending ∧ (s.stage i).IsDone) :
      Step w s (.abort batch) ((s.collect w batch).setPhase (.ended false))

inductive Run (w : Workload) : Pool → List Action → Pool → Prop where
  | nil (s : Pool) : Run w s [] s
  | cons {s t u : Pool} {a : Action} {acts : List Action} :
      Step w s a t → Run w t acts u → Run w s (a :: acts) u

namespace Run

variable {w : Workload} {s t u : Pool}

theorem single {a : Action} (h : Step w s a t) : Run w s [a] t := .cons h (.nil t)

theorem append {as bs : List Action} (h : Run w s as t) (k : Run w t bs u) :
    Run w s (as ++ bs) u := by
  induction h with
  | nil => exact k
  | cons step _ ih => exact .cons step (ih k)

theorem invariant {P : Pool → Prop} {acts : List Action} (h : Run w s acts t)
    (step : ∀ a ∈ acts, ∀ s t, Step w s a t → P s → P t) (start : P s) : P t := by
  induction h with
  | nil => exact start
  | cons hd _ ih =>
      exact ih (fun a ha => step a (List.mem_cons_of_mem _ ha))
        (step _ List.mem_cons_self _ _ hd start)

end Run

def harvest (n : Nat) (complete : Bool) (s : Pool) : Harvest where
  parts := (List.range n).filterMap s.parts
  skipped := (List.range n).filterMap s.skips
  complete := complete

def result? (n : Nat) (s : Pool) : Option (Except BuildError Build) :=
  match s.phase with
  | .ended complete => some (Build.ofHarvest n (s.harvest n complete))
  | .overdrawn => some (.error .waitTooLong)
  | _ => none

end Pool

end TacticalDesign
