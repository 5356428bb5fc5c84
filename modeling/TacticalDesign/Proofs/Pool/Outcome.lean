import TacticalDesign.Proofs.Graph.Assembly
import TacticalDesign.Proofs.Pool.Progress
import TacticalDesign.Proofs.Pool.Reach
/-!
# What an undisturbed pool leaves behind

However workers and loop take turns, an undisturbed pool whose loop comes to its end leaves behind
what `Harvest.ofUnits` makes of the units one by one. So the build of units is one value, and
`Build.inOrder` computes it; what else a build may come to is the failure of a wait that is too
long.
-/

namespace TacticalDesign

def Workload.ofConfig (config : ScanConfig) (units : List SourceUnit) : Workload :=
  ⟨units, config.unitTimeout, config.maxWorkers.toNat, config.pollInterval⟩

namespace Pool

variable {w : Workload} {s : Pool} {i : Nat}

/-! ## The records of the units -/

theorem Steady.not_reached_of_withdrawn (h : Steady w s) (hi : i < w.size)
    (hw : s.stage i = .withdrawn) : ¬w.IsReached i := by
  intro hr
  have lost := h.withdrawn_exhausted i hw
  rw [h.abandoned_eq] at lost
  have sub : s.stuck w ⊆ w.endlessBefore i := by
    intro j hj
    obtain ⟨endless, runs, -⟩ := mem_stuck.mp hj
    have before := h.fifo i j hi (Or.inr hw) (Or.inl (Or.inr runs))
    exact Finset.mem_filter.mpr ⟨Finset.mem_range.mpr before, endless⟩
  have hcard := Finset.card_le_card sub
  unfold Workload.IsReached at hr
  omega

theorem Steady.settled_of_ended (h : Steady w s) (ended : s.phase = .ended true)
    (hi : i < w.size) : Settled w s i :=
  h.settled i hi (by simp [h.accounted.ended_settled ended])

theorem Steady.records_within (h : Steady w s) (ended : s.phase = .ended true) (hi : i < w.size)
    (reached : w.IsReached i) :
    s.parts i = w.units[i]?.bind (·.part?) ∧ s.skips i = w.units[i]?.bind (·.skip? w.limit) := by
  obtain ⟨u, hu⟩ : ∃ u, w.units[i]? = some u := ⟨_, List.getElem?_eq_getElem hi⟩
  rcases h.settled_of_ended ended hi with
    ⟨stage, part, skip⟩ | ⟨-, endless, part, skip⟩ | ⟨stage, -, -⟩
  · obtain ⟨y, hy⟩ := Option.isSome_iff_exists.mp (h.accounted.finished_returns i stage)
    have hy' : u.yield? = some y := by simpa [Workload.yieldAt?, hu] using hy
    simp [part, skip, Workload.partAt?, Workload.failureAt?, hy, hu, SourceUnit.part?,
      SourceUnit.skip?, hy']
  · have hy' : u.yield? = none := by simpa [Workload.yieldAt?, hu] using endless.2
    simp [part, skip, Workload.overdueAt?, hu, SourceUnit.part?, SourceUnit.skip?, hy']
  · exact absurd reached (h.not_reached_of_withdrawn hi stage)

theorem Steady.records_behind (h : Steady w s) (ended : s.phase = .ended true) (hi : i < w.size)
    (unreached : ¬w.IsReached i) :
    s.parts i = none ∧ s.skips i = w.units[i]?.bind fun u => some u.starved := by
  rcases h.settled_of_ended ended hi with ⟨stage, -, -⟩ | ⟨stage, -, -, -⟩ | ⟨-, part, skip⟩
  · exact absurd (h.reached i (Or.inr stage)) unreached
  · exact absurd (h.reached i (Or.inl (Or.inr stage))) unreached
  · exact ⟨part, by rw [skip, Workload.starvedAt?, Option.map_eq_bind]; rfl⟩

/-- At its end an undisturbed pool leaves behind what the units give one by one. -/
theorem Steady.harvest_eq (h : Steady w s) (employs : 0 < w.workers)
    (obedient : ∀ u ∈ w.units, u.extraction ≠ .cancelling) (ended : s.phase = .ended true) :
    s.harvest w.size true = Harvest.ofUnits w.limit w.workers w.units := by
  have inside : w.reach ≤ w.units.length := by
    by_contra hlt
    have := (w.lt_reach_iff employs w.units.length).mp (by omega)
    exact Nat.lt_irrefl _ this.1
  have within : ∀ i < w.reach, i < w.size ∧ w.IsReached i :=
    fun i hi => (w.lt_reach_iff employs i).mp hi
  have behind : ∀ i, w.reach ≤ i → i < w.units.length → ¬w.IsReached i := by
    intro i hr hi reached
    exact Nat.not_lt.mpr hr ((w.lt_reach_iff employs i).mpr ⟨hi, reached⟩)
  have hparts := Workload.filterMap_range w.units inside s.parts (·.part?) (fun _ => none)
    (fun i hi => (h.records_within ended (within i hi).1 (within i hi).2).1)
    (fun i hr hi => by simpa using (h.records_behind ended hi (behind i hr hi)).1)
  have hskips := Workload.filterMap_range w.units inside s.skips (·.skip? w.limit)
    (fun u => some u.starved)
    (fun i hi => (h.records_within ended (within i hi).1 (within i hi).2).2)
    (fun i hr hi => (h.records_behind ended hi (behind i hr hi)).2)
  rw [w.harvest_ofUnits employs obedient, harvest, Workload.size, hparts, hskips]
  simp

/-! ## Waits that are too long -/

structure Fruitless (w : Workload) (s : Pool) : Prop where
  steady : Steady w s
  pending : s.pending = List.range w.size
  loop : s.phase = .polling ∨ s.phase = .waiting ∨ s.phase = .overdrawn

variable (long : w.Overlong) (employs : 0 < w.size)
  (stuck : ∀ i < w.size, i < w.workers → w.Endless i)

include stuck in
/-- Where the first units take all workers and keep them, no unit ever comes to an end. -/
theorem Steady.not_finished_of_stuck (h : Steady w s) (inside : i < w.size) :
    s.stage i ≠ .finished := by
  intro finished
  -- The unit is none of the first, but then no worker was left for it.
  have late : w.workers ≤ i := by
    by_contra first
    exact h.not_endless_of_finished finished (stuck i inside (by omega))
  have before : Finset.range w.workers ⊆ w.endlessBefore i := by
    intro j hj
    have hlt := Finset.mem_range.mp hj
    exact Finset.mem_filter.mpr ⟨Finset.mem_range.mpr (by omega), stuck j (by omega) hlt⟩
  have taken := Finset.card_le_card before
  rw [Finset.card_range] at taken
  exact Nat.not_lt.mpr taken (h.reached i (Or.inr finished))

include long employs stuck in
theorem Fruitless.step {t : Pool} {a : Action} (h : Fruitless w s) (step : Step w s a t)
    (calm : Undisturbed w a) : Fruitless w t := by
  suffices moved : t.pending = List.range w.size ∧
      (t.phase = .polling ∨ t.phase = .waiting ∨ t.phase = .overdrawn) from
    ⟨h.steady.step step calm, moved.1, moved.2⟩
  obtain ⟨steady, all, loop⟩ := h
  cases step with
  | request | take | start | finish => exact ⟨all, loop⟩
  | look polls waits unasked => exact ⟨all, Or.inr (Or.inl rfl)⟩
  | overdraw waits long undone => exact ⟨all, Or.inr (Or.inr rfl)⟩
  | wake batch waits done spared =>
      obtain ⟨i, hi⟩ := List.exists_mem_of_ne_nil _ (spared long)
      obtain ⟨waited, finished | refused⟩ := done i hi
      · have inside := steady.accounted.pending_lt i waited
        exact absurd finished (steady.not_finished_of_stuck stuck inside)
      · exact absurd refused (steady.not_refused i)
  | close polls settled =>
      rw [all, List.range_eq_nil] at settled
      omega
  | abort batch polls waits asked done =>
      rw [steady.unasked] at asked
      cases asked
  | _ => simp_all

include long employs stuck in
/-- Where no unit ever comes to an end, a wait that is too long never returns. -/
theorem Run.never_ends {acts : List Action} (run : Run w (submitted w.size) acts s)
    (calm : ∀ a ∈ acts, Undisturbed w a) (complete : Bool) : s.phase ≠ .ended complete := by
  have fruitless : Fruitless w s :=
    run.invariant (fun a ha s t step h => h.step long employs stuck step (calm a ha))
      ⟨steady_submitted w, rfl, Or.inl rfl⟩
  rcases fruitless.loop with e | e | e <;> simp [e]

omit long employs stuck

variable {config : ScanConfig} {units : List SourceUnit}

theorem endless_of_neverDone (never : Build.neverDone config units = true)
    (hi : i < (Workload.ofConfig config units).size)
    (first : i < (Workload.ofConfig config units).workers) :
    (Workload.ofConfig config units).Endless i := by
  have inside : i < units.length := hi
  have found : units[i] ∈ units.take config.maxWorkers.toNat :=
    List.mem_take_iff_getElem.mpr ⟨i, lt_min first inside, rfl⟩
  have overruns : units[i].extraction = .overrun := by
    simpa using List.all_eq_true.mp never units[i] found
  rw [Workload.endless_iff _ (List.getElem?_eq_getElem inside)]
  simp [SourceUnit.neverReturns, SourceUnit.yield?, overruns]

/-! ## The build -/

theorem overdraws_of_overdrawn {acts : List Action}
    (run : Run (.ofConfig config units) (submitted units.length) acts s)
    (drawn : s.phase = .overdrawn) : Build.overdraws config units false = true := by
  obtain ⟨overlong, some_unit⟩ := run.overlong drawn
  exact Build.overdraws_iff.mpr ⟨rfl, List.length_pos_iff.mp some_unit, overlong⟩

theorem outcome_of_result {acts : List Action} {x : Except BuildError Build}
    (employs : 0 < config.maxWorkers) (obedient : ∀ u ∈ units, u.extraction ≠ .cancelling)
    (run : Run (.ofConfig config units) (submitted units.length) acts s)
    (calm : ∀ a ∈ acts, Undisturbed (.ofConfig config units) a)
    (gives : s.result? units.length = some x) : Build.Outcome config units false x := by
  have steady := run.steady calm (steady_submitted (.ofConfig config units))
  unfold result? at gives
  split at gives
  · rename_i complete ended
    obtain rfl : complete = true := by
      cases complete
      · exact absurd ended steady.uncut
      · rfl
    obtain rfl := Option.some.inj gives
    have workers : 0 < config.maxWorkers.toNat := Int.lt_toNat.mpr employs
    have same : s.harvest units.length true = _ := steady.harvest_eq workers obedient ended
    rw [same]
    refine .settled fun long => Bool.eq_false_iff.mpr fun never => ?_
    obtain ⟨-, some_unit, beyond⟩ := Build.overdraws_iff.mp long
    have overlong : (Workload.ofConfig config units).Overlong := beyond
    exact run.never_ends overlong (List.length_pos_iff.mpr some_unit)
      (fun i hi first => endless_of_neverDone never hi first) calm true ended
  · rename_i drawn
    obtain rfl := Option.some.inj gives
    exact .overdrawn (overdraws_of_overdrawn run drawn)
  · cases gives

/-- Every undisturbed run over the units of a build advances a bounded number of times and can go
on until its loop has ended, or has failed in a wait that is too long. At its end the build is the
one of the units in order: those within reach of the workers give their parts or skips, all others
are starved, and of the symbols with one id the first is kept. -/
theorem undisturbed_run_builds (config : ScanConfig) (units : List SourceUnit)
    (employs : 0 < config.maxWorkers) (obedient : ∀ u ∈ units, u.extraction ≠ .cancelling)
    {acts : List Action} {s : Pool}
    (run : Run (.ofConfig config units) (submitted units.length) acts s)
    (calm : ∀ a ∈ acts, Undisturbed (.ofConfig config units) a) :
    acts.countP (·.advances) ≤ 4 * units.length ∧
      (∃ t, Leads (.ofConfig config units) s t ∧
        (t.phase = .ended true ∨
          t.phase = .overdrawn ∧ Build.overdraws config units false = true)) ∧
      (∀ x, s.result? units.length = some x → Build.Outcome config units false x) ∧
      ∀ complete, s.phase = .ended complete →
        let reached := units.take (Workload.ofConfig config units).reach
        let unreached := units.drop (Workload.ofConfig config units).reach
        ∃ b, Build.ofHarvest units.length (s.harvest units.length complete) = .ok b ∧
          Build.inOrder config units false = .ok b ∧
          b.complete = true ∧ b.unitCount = units.length ∧
          b.processedPaths = (reached.filterMap (·.part?)).map (·.path) ∧
          b.skipped =
            reached.filterMap (·.skip? config.unitTimeout) ++ unreached.map (·.starved) ∧
          ∀ id, b.graph.get? id =
            ((reached.filterMap (·.part?)).flatMap (·.symbols)).find? (·.id == id) := by
  have employs' : 0 < (Workload.ofConfig config units).workers := by
    simpa [Workload.ofConfig] using employs
  have steady := run.steady calm (steady_submitted (.ofConfig config units))
  refine ⟨?_, ?_, fun x gives => outcome_of_result employs obedient run calm gives, ?_⟩
  · have hle := run.advances_le calm (steady_submitted _)
    have hw := work_submitted units.length
    simp only [Workload.size, Workload.ofConfig] at hle
    omega
  · obtain ⟨t, ⟨more, calm', further⟩, ended | drawn⟩ := steady.can_end
    · exact ⟨t, ⟨more, calm', further⟩, Or.inl ended⟩
    · have long := overdraws_of_overdrawn (run.append further) drawn
      exact ⟨t, ⟨more, calm', further⟩, Or.inr ⟨drawn, long⟩⟩
  · intro complete ended
    obtain rfl : complete = true := by
      cases complete
      · exact absurd ended steady.uncut
      · rfl
    have same := steady.harvest_eq employs' obedient ended
    have closed := (Workload.ofConfig config units).harvest_ofUnits employs' obedient
    have hharvest := same.trans closed
    obtain ⟨b, hb, first, paths, skipped, count, comp⟩ :=
      Build.ofHarvest_ok units.length (s.harvest units.length true)
    simp only [Workload.size, Workload.ofConfig] at same hharvest
    have in_order : Build.inOrder config units false = .ok b := by
      rw [same] at hb
      exact hb
    refine ⟨b, hb, in_order, comp, count, ?_, ?_, ?_⟩
    · rw [paths, hharvest]
      rfl
    · rw [skipped, hharvest]
      rfl
    · intro id
      rw [first id, hharvest]
      rfl

/-- The first of two units keeps the only worker, so the second one is starved. -/
theorem lost_worker_run_builds :
    let config : ScanConfig := { maxWorkers := 1 }
    let first : SourceUnit := ⟨"A", "java", .overrun⟩
    let second : SourceUnit := ⟨"B", "java", .declared []⟩
    ∃ acts s, Run (.ofConfig config [first, second]) (submitted 2) acts s ∧
      s.phase = .ended true ∧
      ∃ b, Build.ofHarvest 2 (s.harvest 2 true) = .ok b ∧ b.complete = true ∧
        b.skipped = [first.overdue 30.0, second.starved] := by
  intro config first second
  let acts : List Action := [.take 0, .start 0, .look, .wake [], .expire 0, .spare 1,
    .finishSweep, .starve 1, .finishDrain, .close]
  have short : ¬(Workload.ofConfig config [first, second]).Overlong := by decide
  obtain ⟨s, run, ended⟩ : ∃ s, Run (.ofConfig config [first, second]) (submitted 2) acts s ∧
      s.phase = .ended true :=
    ⟨_, .cons (.take _ 0 [1] rfl (by decide)) <| .cons (.start _ 0 rfl) <|
      .cons (.look _ rfl (by decide) rfl) <|
      .cons (.wake _ [] rfl (by simp) fun long => absurd long short) <|
      .cons (.expire _ 0 [1] rfl (Or.inl rfl)) <| .cons (.spare _ 1 [] rfl) <|
      .cons (.finishSweep _ rfl) <|
      .cons (.starve _ 1 [] rfl (by simp [Stage.IsStarted]; decide)) <|
      .cons (.finishDrain _ rfl) <| .cons (.close _ rfl rfl) (.nil _), rfl⟩
  have calm : ∀ a ∈ acts, Undisturbed (.ofConfig config [first, second]) a := by
    have endless : (Workload.ofConfig config [first, second]).Endless 0 := by decide
    simp [acts, Undisturbed, endless]
  obtain ⟨-, -, -, outcome⟩ :=
    undisturbed_run_builds config [first, second] (by decide) (by decide) run calm
  obtain ⟨b, hb, -, complete, -, -, skipped, -⟩ := outcome true ended
  exact ⟨acts, s, run, ended, b, hb, complete, skipped⟩

/-- A unit that never returns, under an accepted poll interval of ten billion seconds: the first
wait fails, and no undisturbed run comes to its end. -/
theorem overlong_run_fails :
    let config : ScanConfig := { pollInterval := 1e10 }
    let units : List SourceUnit := [⟨"Slow.java", "java", .overrun⟩]
    config.check = .ok config ∧
      (∃ acts s, Run (.ofConfig config units) (submitted 1) acts s ∧
        (∀ a ∈ acts, Undisturbed (.ofConfig config units) a) ∧
        s.result? 1 = some (.error .waitTooLong)) ∧
      ∀ acts s, Run (.ofConfig config units) (submitted 1) acts s →
        (∀ a ∈ acts, Undisturbed (.ofConfig config units) a) →
          ∀ complete, s.phase ≠ .ended complete := by
  intro config units
  have accepted : config.violation? = none := by decide
  have long : (Workload.ofConfig config units).Overlong := by decide
  refine ⟨by simp only [ScanConfig.check, accepted], ?_, fun acts s run calm complete => ?_⟩
  · exact ⟨[.look, .overdraw], _, .cons (.look _ rfl (by decide) rfl) <|
      .cons (.overdraw _ rfl long (by simp [submitted, setPhase, Stage.IsDone])) (.nil _),
      by simp [Undisturbed], rfl⟩
  · exact run.never_ends long (by decide) (by decide) calm complete

end Pool

end TacticalDesign
