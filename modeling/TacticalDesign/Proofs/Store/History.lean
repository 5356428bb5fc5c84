import TacticalDesign.Proofs.Store.Tables
/-!
# Histories of a run store

Calls on one store, one after the other, each with its answer. A call that is to keep a run may fail
at any of its statements; the database then undoes its transaction, and all that may be left are
tables without rows. Whatever the calls, the rows are the runs that were kept, in the order in which
they were kept, and loading reads them back.
-/

namespace TacticalDesign

structure KeptRun where
  id : Nat
  rootPath : String
  report : ScanReport

namespace KeptRun

def row (k : KeptRun) : RunRow := RunTables.runRow k.id k.rootPath k.report

def baseline (k : KeptRun) : Baseline where
  schemaVersion := some Baseline.currentSchema
  registryVersion := k.report.registryVersion
  registryFingerprint := k.report.registryFingerprint
  graph := k.report.graph
  classifications := k.report.classifications
  rootPath := k.rootPath

@[simp]
theorem row_rootPath (k : KeptRun) : k.row.rootPath = k.rootPath := rfl

theorem row_status_iff (k : KeptRun) :
    k.row.status = RunStatus.incomplete.word ↔ k.report.complete = false :=
  RunTables.status_runRow k.id k.rootPath k.report

theorem decode_row {k : KeptRun} (canonical : k.baseline.Canonical) :
    StoreFile.decode k.row.baselineText = .ok k.baseline :=
  StoreFile.decode_runRow canonical k.id

def latest? (rootPath : String) (runs : List KeptRun) : Option KeptRun :=
  (runs.filter fun k => k.rootPath = rootPath && k.report.complete).getLast?

end KeptRun

namespace StoreFile

/-! ## Steps -/

/-- What a call that failed may leave of a file: its transaction is undone, and some of the tables
that were missing are there. -/
inductive Undone : StoreFile → StoreFile → Prop
  | foreign : Undone foreign foreign
  | tables {t t' : RunTables} (runs : t'.runs = t.runs ∨ t'.runs = t.runs.ensure)
      (classifications : t'.classifications = t.classifications ∨
        t'.classifications = t.classifications.ensure)
      (findings : t'.findings = t.findings ∨ t'.findings = t.findings.ensure) :
      Undone (tables t) (tables t')

inductive Event where
  | kept (rootPath : String) (report : ScanReport) (summary : RunSummary)
  | failed (rootPath : String) (report : ScanReport)
  | loaded (id : Int) (answer : Except StoreError Baseline)
  | loadedLatest (rootPath : String) (answer : Except StoreError (Option Baseline))

namespace Event

def run? : Event → Option KeptRun
  | kept rootPath report summary => some ⟨summary.runId, rootPath, report⟩
  | _ => none

def succeeded : Event → Bool
  | failed .. => false
  | _ => true

end Event

inductive Step : StoreFile → Event → StoreFile → Prop
  | kept {file file' : StoreFile} {rootPath : String} {r : ScanReport} {summary : RunSummary}
      (saved : file.saveRun rootPath r = (file', .ok summary)) :
      Step file (.kept rootPath r summary) file'
  | failed {file file' : StoreFile} {rootPath : String} {r : ScanReport}
      (undone : Undone file file') : Step file (.failed rootPath r) file'
  | loaded {file file' : StoreFile} {id : Int} {answer : Except StoreError Baseline}
      (read : file.load id = (file', answer)) : Step file (.loaded id answer) file'
  | loadedLatest {file file' : StoreFile} {rootPath : String}
      {answer : Except StoreError (Option Baseline)}
      (read : file.loadLatest rootPath = (file', answer)) :
      Step file (.loadedLatest rootPath answer) file'

inductive History (start : StoreFile) : List Event → StoreFile → Prop
  | nil : History start [] start
  | snoc {events : List Event} {e : Event} {file file' : StoreFile}
      (before : History start events file) (step : Step file e file') :
      History start (events ++ [e]) file'

theorem undone_of_saveRun {file file' : StoreFile} {rootPath : String} {r : ScanReport}
    {e : StoreError} (failed : file.saveRun rootPath r = (file', .error e)) :
    Undone file file' := by
  obtain rfl := saveRun_error failed
  cases file with
  | foreign => exact .foreign
  | tables t =>
      rw [open?_fst, RunTables.ensure_fst]
      exact .tables (Or.inr rfl) (Or.inr rfl) (Or.inr rfl)

theorem Undone.full_eq {t : RunTables} {file' : StoreFile} (undone : Undone (.tables t) file')
    (usable : t.Usable) : ∃ t', file' = .tables t' ∧ t'.Usable ∧ t'.full = t.full := by
  cases undone with
  | @tables _ t' runs classifications findings =>
      -- A table that is created has no rows, as the one that was missing.
      have kept : ∀ {α : Type} {a b : Table α}, a.Usable → b = a ∨ b = a.ensure →
          b.Usable ∧ b.items = a.items := by
        rintro α a b usable (rfl | rfl)
        · exact ⟨usable, rfl⟩
        · rw [usable.ensure_eq]
          exact ⟨Table.usable_rows _, rfl⟩
      obtain ⟨usable_runs, rows⟩ := kept usable.runs runs
      obtain ⟨usable_classifications, rows'⟩ := kept usable.classifications classifications
      obtain ⟨usable_findings, rows''⟩ := kept usable.findings findings
      refine ⟨t', rfl, ⟨usable_runs, usable_classifications, usable_findings⟩, ?_⟩
      simp only [RunTables.full, rows, rows', rows'']

/-! ## What a store holds -/

/-- Whether the rows of a store are the runs that were kept, under ids that ascend. -/
structure Holds (t : RunTables) (runs : List KeptRun) : Prop where
  usable : t.Usable
  rows : t.runs.items = runs.map (·.row)
  ascend : (runs.map (·.id)).Pairwise (· < ·)

theorem holds_empty : Holds {} [] where
  usable := ⟨Table.usable_absent, Table.usable_absent, Table.usable_absent⟩
  rows := rfl
  ascend := .nil

variable {t t' : RunTables} {runs : List KeptRun}

theorem Holds.of_full_eq (holds : Holds t runs) (usable : t'.Usable) (same : t'.full = t.full) :
    Holds t' runs where
  usable := usable
  rows := by
    have items : t'.full.runs.items = t.full.runs.items := congrArg (fun t => t.runs.items) same
    exact Eq.trans items holds.rows
  ascend := holds.ascend

theorem Holds.full (holds : Holds t runs) : Holds t.full runs :=
  holds.of_full_eq t.usable_full rfl

theorem Holds.ids (holds : Holds t runs) : t.runs.items.map (·.id) = runs.map (·.id) := by
  rw [holds.rows, List.map_map]
  rfl

theorem Holds.of_saveRun (holds : Holds t runs) {file' : StoreFile} {rootPath : String}
    {r : ScanReport} {summary : RunSummary}
    (saved : (tables t).saveRun rootPath r = (file', .ok summary)) :
    ∃ t', file' = tables t' ∧ Holds t' (runs ++ [⟨summary.runId, rootPath, r⟩]) := by
  obtain ⟨t', rfl, usable, id, rows⟩ := saveRun_ok holds.usable saved
  refine ⟨t', rfl, usable, ?_, ?_⟩
  · rw [rows, holds.rows, List.map_append]
    rfl
  · rw [List.map_append, List.pairwise_append]
    refine ⟨holds.ascend, List.pairwise_singleton _ _, fun a ha b hb => ?_⟩
    obtain rfl := List.mem_singleton.mp hb
    rw [id, holds.ids]
    exact RunTables.lt_nextId ha

def keptRuns (events : List Event) : List KeptRun := events.filterMap (·.run?)

theorem keptRuns_append (events : List Event) (e : Event) :
    keptRuns (events ++ [e]) = keptRuns events ++ e.run?.toList := by
  rw [keptRuns, List.filterMap_append]
  cases e <;> rfl

/-- After a call the store holds the runs as before, and the one that the call keeps. -/
theorem Step.holds {file file' : StoreFile} {e : Event} (step : Step file e file')
    (same : file = tables t) (holds : Holds t runs) :
    ∃ t', file' = tables t' ∧ Holds t' (runs ++ e.run?.toList) := by
  subst same
  cases step with
  | kept saved => exact holds.of_saveRun saved
  | failed undone =>
      obtain ⟨t', rfl, usable, same⟩ := undone.full_eq holds.usable
      simp only [Event.run?, Option.toList_none, List.append_nil]
      exact ⟨t', rfl, holds.of_full_eq usable same⟩
  -- Loading opens the file as well, so it may create tables.
  | loaded read =>
      rw [load_tables holds.usable] at read
      simp only [Event.run?, Option.toList_none, List.append_nil]
      exact ⟨t.full, (Prod.mk.inj read).1.symm, holds.full⟩
  | loadedLatest read =>
      rw [loadLatest_tables holds.usable] at read
      simp only [Event.run?, Option.toList_none, List.append_nil]
      refine ⟨t.full, ?_, holds.full⟩
      split at read <;> exact (Prod.mk.inj read).1.symm

theorem History.holds {events : List Event} {file : StoreFile}
    (history : History empty events file) :
    ∃ t, file = tables t ∧ Holds t (keptRuns events) := by
  induction history with
  | nil => exact ⟨{}, rfl, holds_empty⟩
  | snoc before step ih =>
      obtain ⟨t, same, holds⟩ := ih
      obtain ⟨t', same', holds'⟩ := step.holds same holds
      refine ⟨t', same', ?_⟩
      rw [keptRuns_append]
      exact holds'

/-! ## What loading answers -/

theorem Holds.latest? (holds : Holds t runs) (rootPath : String) :
    StoreFile.latest? t.full rootPath = (KeptRun.latest? rootPath runs).map (·.row) := by
  have chosen : ∀ k : KeptRun, (k.row.rootPath = rootPath && k.row.status ≠
      RunStatus.incomplete.word) = (k.rootPath = rootPath && k.report.complete) := by
    intro k
    have status : decide (k.row.status ≠ RunStatus.incomplete.word) = k.report.complete := by
      rw [Bool.eq_iff_iff, decide_eq_true_iff, ← Bool.not_eq_false]
      exact not_congr k.row_status_iff
    rw [status, KeptRun.row_rootPath]
  show (t.runs.items.filter _).getLast? = _
  rw [holds.rows, List.filter_map, List.getLast?_map]
  refine congrArg _ (congrArg _ (List.filter_congr fun k _ => ?_))
  exact chosen k

theorem Holds.loadLatest (holds : Holds t runs)
    (canonical : ∀ k ∈ runs, k.report.complete = true → k.baseline.Canonical) (rootPath : String) :
    (tables t).loadLatest rootPath =
      (tables t.full, .ok ((KeptRun.latest? rootPath runs).map (·.baseline))) := by
  rw [loadLatest_tables holds.usable, holds.latest?]
  cases found : KeptRun.latest? rootPath runs with
  | none => rfl
  | some k =>
      obtain ⟨member, chosen⟩ := List.mem_filter.mp (List.mem_of_getLast? found)
      rw [Bool.and_eq_true] at chosen
      simp only [Option.map_some, KeptRun.decode_row (canonical k member chosen.2)]
      rfl

/-- Ids ascend, so the row with the id of a run is the row of that run. -/
theorem Holds.find?_of_mem (holds : Holds t runs) {k : KeptRun} (member : k ∈ runs) {id : Int}
    (same : (k.id : Int) = id) :
    t.full.runs.items.find? (fun row => (row.id : Int) = id) = some k.row := by
  have ids : (t.runs.items.map (·.id)).Nodup := by
    rw [holds.ids]
    exact holds.ascend.imp fun h => Nat.ne_of_lt h
  have distinct : (t.runs.items.map fun row => (row.id : Int)).Nodup := by
    have cast := ids.map (Nat.cast_injective (R := Int))
    rwa [List.map_map] at cast
  have row : k.row ∈ t.runs.items := holds.rows ▸ List.mem_map_of_mem member
  exact (find?_key_iff (fun row : RunRow => (row.id : Int)) distinct).mpr ⟨row, same⟩

section

variable {id : Int} (fits : idFits id = true)
include fits

theorem Holds.load_of_mem (holds : Holds t runs) {k : KeptRun} (member : k ∈ runs)
    (same : (k.id : Int) = id) (canonical : k.report.complete = true → k.baseline.Canonical) :
    ((tables t).load id).2 =
      if k.report.complete then .ok k.baseline else .error (.runIncomplete id) := by
  have found := holds.find?_of_mem member same
  rw [load_tables holds.usable]
  simp only [loadFrom, fits, found, Bool.not_true, Bool.false_eq_true, if_false]
  cases complete : k.report.complete with
  | false =>
      rw [if_pos (k.row_status_iff.mpr complete), if_neg Bool.false_ne_true]
  | true =>
      have other : k.row.status ≠ RunStatus.incomplete.word := fun h =>
        Bool.noConfusion (complete.symm.trans (k.row_status_iff.mp h))
      rw [if_neg other, if_pos rfl]
      exact KeptRun.decode_row (canonical complete)

theorem Holds.load_of_not_mem (holds : Holds t runs) (unknown : ∀ k ∈ runs, (k.id : Int) ≠ id) :
    ((tables t).load id).2 = .error (.runNotFound id) := by
  have missing : t.full.runs.items.find? (fun row => (row.id : Int) = id) = none := by
    show t.runs.items.find? _ = _
    rw [holds.rows, List.find?_eq_none]
    intro row hrow
    obtain ⟨k, hk, rfl⟩ := List.mem_map.mp hrow
    exact fun found => unknown k hk (of_decide_eq_true found)
  rw [load_tables holds.usable]
  simp only [loadFrom, fits, missing, Bool.not_true, Bool.false_eq_true, if_false]

end

theorem Holds.load_of_not_fits {id : Int} (holds : Holds t runs) (large : idFits id = false) :
    ((tables t).load id).2 = .error .idTooLarge := by
  rw [load_tables holds.usable]
  simp only [loadFrom, large, Bool.not_false, if_true]

/-! ## Failures -/

/-- Whether two stores have the same rows, in tables that can be used. -/
def Agree (file other : StoreFile) : Prop :=
  ∃ t t' : RunTables, file = tables t ∧ other = tables t' ∧ t.Usable ∧ t'.Usable ∧ t.full = t'.full

theorem agree_self (usable : t.Usable) : Agree (tables t) (tables t) :=
  ⟨t, t, rfl, rfl, usable, usable, rfl⟩

theorem Agree.calls {file other : StoreFile} (agree : Agree file other) :
    (∀ rootPath r, file.saveRun rootPath r = other.saveRun rootPath r) ∧
      (∀ id, file.load id = other.load id) ∧
      ∀ rootPath, file.loadLatest rootPath = other.loadLatest rootPath := by
  obtain ⟨t, t', rfl, rfl, usable, usable', same⟩ := agree
  refine ⟨fun rootPath r => ?_, fun id => ?_, fun rootPath => ?_⟩
  · rw [saveRun_tables usable, saveRun_tables usable', same]
  · rw [load_tables usable, load_tables usable', same]
  · rw [loadLatest_tables usable, loadLatest_tables usable', same]

theorem Agree.of_failed {file file' other : StoreFile} {e : Event} (agree : Agree file other)
    (step : Step file e file') (failed : e.succeeded = false) : Agree file' other := by
  obtain ⟨t, t', rfl, rfl, usable, usable', same⟩ := agree
  cases step with
  | failed undone =>
      obtain ⟨u, rfl, usable_u, same_u⟩ := undone.full_eq usable
      exact ⟨u, t', rfl, rfl, usable_u, usable', same_u.trans same⟩
  | kept => cases failed
  | loaded => cases failed
  | loadedLatest => cases failed

theorem Agree.of_succeeded {file file' other : StoreFile} {e : Event} (agree : Agree file other)
    (step : Step file e file') (succeeded : e.succeeded = true) : Step other e file' := by
  obtain ⟨saves, loads, loads_latest⟩ := agree.calls
  cases step with
  | kept saved => exact .kept (saves _ _ ▸ saved)
  | failed => cases succeeded
  | loaded read => exact .loaded (loads _ ▸ read)
  | loadedLatest read => exact .loadedLatest (loads_latest _ ▸ read)

theorem History.without_failures {events : List Event} {file : StoreFile}
    (history : History empty events file) :
    ∃ other, History empty (events.filter (·.succeeded)) other ∧ Agree file other := by
  induction history with
  | nil => exact ⟨empty, .nil, agree_self holds_empty.usable⟩
  | @snoc events e file file' before step ih =>
      obtain ⟨other, history, agree⟩ := ih
      obtain ⟨t', same, holds⟩ := (before.snoc step).holds
      rw [List.filter_append]
      -- A failed call is left out; any other one brings both histories to the same file.
      cases succeeded : e.succeeded with
      | false =>
          rw [List.filter_cons_of_neg (by simp [succeeded]), List.filter_nil, List.append_nil]
          exact ⟨other, history, agree.of_failed step succeeded⟩
      | true =>
          rw [List.filter_cons_of_pos succeeded, List.filter_nil]
          refine ⟨file', history.snoc (agree.of_succeeded step succeeded), ?_⟩
          rw [same]
          exact agree_self holds.usable

/-! ## Histories -/

/-- What loading answers where runs were kept: under an id that the id column can hold, the baseline
of a complete run, and for a root the one of the complete run that was kept last. -/
structure Answers (file : StoreFile) (runs : List KeptRun) : Prop where
  latest : ∀ rootPath, (file.loadLatest rootPath).2 =
    .ok ((KeptRun.latest? rootPath runs).map (·.baseline))
  complete : ∀ k ∈ runs, idFits k.id = true → k.report.complete = true →
    (file.load k.id).2 = .ok k.baseline
  incomplete : ∀ k ∈ runs, idFits k.id = true → k.report.complete = false →
    (file.load k.id).2 = .error (.runIncomplete k.id)
  unknown : ∀ id, idFits id = true → (∀ k ∈ runs, (k.id : Int) ≠ id) →
    (file.load id).2 = .error (.runNotFound id)
  unfit : ∀ id, idFits id = false → (file.load id).2 = .error .idTooLarge

theorem answers_of_holds (holds : Holds t runs)
    (canonical : ∀ k ∈ runs, k.report.complete = true → k.baseline.Canonical) :
    Answers (tables t) runs where
  latest rootPath := congrArg Prod.snd (holds.loadLatest canonical rootPath)
  complete k hk fits complete := by
    rw [holds.load_of_mem fits hk rfl (canonical k hk), if_pos complete]
  incomplete k hk fits incomplete := by
    rw [holds.load_of_mem fits hk rfl (canonical k hk), if_neg (by simp [incomplete])]
  unknown _ fits unknown := holds.load_of_not_mem fits unknown
  unfit _ large := holds.load_of_not_fits large

/-- In a store that was empty a run whose numbers have a place is kept under the next id. -/
theorem History.exists_saveRun {events : List Event} {file : StoreFile}
    (history : History empty events file) (rootPath : String) {r : ScanReport}
    (numbers : ∀ c ∈ r.classifications, RunTables.HasNumbers c) :
    ∃ file' summary, file.saveRun rootPath r = (file', .ok summary) ∧
      summary.runId = RunTables.nextId ((keptRuns events).map (·.id)) := by
  obtain ⟨t, rfl, holds⟩ := history.holds
  obtain ⟨t', summary, inserted⟩ := RunTables.exists_insert t rootPath numbers
  have saved : (tables t).saveRun rootPath r = (tables t', .ok summary) := by
    rw [saveRun_tables holds.usable, inserted]
  obtain ⟨-, -, -, id, -⟩ := saveRun_ok holds.usable saved
  exact ⟨tables t', summary, saved, id.trans (congrArg _ holds.ids)⟩

/-- Whatever the calls on a store that was empty, runs are kept under ascending ids, loading answers
with the runs that were kept, and all of this is as if the calls that failed had not been made. -/
theorem History.answers {events : List Event} {file : StoreFile}
    (history : History empty events file)
    (canonical : ∀ k ∈ keptRuns events, k.report.complete = true → k.baseline.Canonical) :
    ((keptRuns events).map (·.id)).Pairwise (· < ·) ∧ Answers file (keptRuns events) ∧
      ∃ other, History empty (events.filter (·.succeeded)) other ∧
        (∀ rootPath, (other.loadLatest rootPath).2 = (file.loadLatest rootPath).2) ∧
          ∀ id, (other.load id).2 = (file.load id).2 := by
  obtain ⟨t, rfl, holds⟩ := history.holds
  obtain ⟨other, shorter, agree⟩ := history.without_failures
  obtain ⟨-, loads, loads_latest⟩ := agree.calls
  refine ⟨holds.ascend, answers_of_holds holds canonical, other, shorter, fun rootPath => ?_,
    fun id => ?_⟩
  · rw [loads_latest]
  · rw [loads]

def orderReport : ScanReport where
  registryVersion := "1"
  registryFingerprint := "f"
  complete := true
  unitCount := 2
  processedPaths := ["a.java", "b.java"]
  classifications := Baseline.ofOrder.classifications
  findings := []
  skipped := []
  graph := Baseline.ofOrder.graph

theorem hasNumbers_orderReport : ∀ c ∈ orderReport.classifications, RunTables.HasNumbers c := by
  intro c hc
  obtain rfl := List.mem_singleton.mp hc
  exact ⟨by decide +kernel, by decide +kernel⟩

theorem canonical_orderReport (id : Nat) (rootPath : String) :
    (KeptRun.mk id rootPath orderReport).baseline.Canonical :=
  { Baseline.canonical_ofOrder with schema := ⟨"1.0", rfl, by decide⟩ }

/-- A call that fails creates a table, then a complete and an incomplete run are kept. -/
theorem History.answers_after_failure :
    ∃ (events : List Event) (file : StoreFile) (b : Baseline), History empty events file ∧
      (∀ k ∈ keptRuns events, k.report.complete = true → k.baseline.Canonical) ∧
      b.classifications.map (·.score) = [.float 0.1] ∧
      (file.loadLatest "project").2 = .ok (some b) ∧ (file.loadLatest "").2 = .ok none ∧
      (file.load 1).2 = .ok b ∧ (file.load 2).2 = .error (.runIncomplete 2) ∧
      (file.load 3).2 = .error (.runNotFound 3) := by
  let unfinished : ScanReport := { orderReport with complete := false }
  have failed : History empty ([] ++ [.failed "project" orderReport])
      (tables ⟨.rows [], .absent, .absent⟩) :=
    .snoc .nil (.failed (.tables (Or.inr rfl) (Or.inl rfl) (Or.inl rfl)))
  obtain ⟨first, s₁, saved₁, id₁⟩ := failed.exists_saveRun "project" hasNumbers_orderReport
  have one := failed.snoc (.kept saved₁)
  obtain ⟨file, s₂, saved₂, id₂⟩ :=
    one.exists_saveRun "project" (r := unfinished) hasNumbers_orderReport
  have two := one.snoc (.kept saved₂)
  let complete : KeptRun := ⟨s₁.runId, "project", orderReport⟩
  let incomplete : KeptRun := ⟨s₂.runId, "project", unfinished⟩
  have first_id : s₁.runId = 1 := id₁
  have second_id : s₂.runId = 2 := by
    rw [id₂]
    show RunTables.nextId [s₁.runId] = 2
    rw [first_id]
    rfl
  have canonical : ∀ k ∈ [complete, incomplete], k.report.complete = true →
      k.baseline.Canonical := by
    intro k hk finished
    rcases List.mem_cons.mp hk with rfl | hk
    · exact canonical_orderReport s₁.runId "project"
    · obtain rfl := List.mem_singleton.mp hk
      cases finished
  obtain ⟨-, answers, -⟩ := two.answers canonical
  have first_answer := answers.complete complete List.mem_cons_self
  have second_answer := answers.incomplete incomplete (List.mem_cons_of_mem _ List.mem_cons_self)
  simp only [complete, incomplete, first_id, second_id] at first_answer second_answer
  refine ⟨_, file, complete.baseline, two, canonical, rfl, ?_, ?_, first_answer (by decide) rfl,
    second_answer (by decide) rfl, ?_⟩
  · exact answers.latest "project"
  · exact answers.latest ""
  · refine answers.unknown 3 (by decide) fun k hk => ?_
    rcases List.mem_cons.mp hk with rfl | hk
    · simp [first_id]
    · obtain rfl := List.mem_singleton.mp hk
      simp [second_id]

/-- No run is kept under an id that the id column cannot hold, but loading it is not refused as
loading an unknown run is. -/
theorem load_large_id_not_unknown :
    History empty [] empty ∧ (∀ k ∈ keptRuns [], (k.id : Int) ≠ 9223372036854775808) ∧
      (empty.load 9223372036854775808).2 = .error .idTooLarge ∧
      (empty.load 9223372036854775808).2 ≠ .error (.runNotFound 9223372036854775808) := by
  have refused : (empty.load 9223372036854775808).2 = .error .idTooLarge :=
    holds_empty.load_of_not_fits (by decide)
  refine ⟨.nil, fun k hk => (by cases hk), refused, fun unknown => ?_⟩
  cases refused.symm.trans unknown

end StoreFile

end TacticalDesign
