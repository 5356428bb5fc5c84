import TacticalDesign.Proofs.Baseline.RoundTrip
/-!
# Calls on a run store

What one call does to tables that can be used. It reads and changes nothing but their rows, so it
makes no difference whether a table without rows is there or missing. A run that is kept becomes the
last row, under an id that is larger than all before, and a call that keeps nothing leaves the rows
as they are.
-/

namespace TacticalDesign

/-! ## Tables -/

namespace Table

variable {α : Type}

def Usable (t : Table α) : Prop := t ≠ idsOnly

theorem Usable.ensure_eq {t : Table α} (usable : t.Usable) : t.ensure = rows t.items := by
  cases t with
  | absent => rfl
  | idsOnly => exact absurd rfl usable
  | rows items => rfl

theorem usable_absent : (absent : Table α).Usable := fun h => by cases h

theorem usable_rows (items : List α) : (rows items).Usable := fun h => by cases h

end Table

namespace RunTables

structure Usable (t : RunTables) : Prop where
  runs : t.runs.Usable
  classifications : t.classifications.Usable
  findings : t.findings.Usable

def full (t : RunTables) : RunTables :=
  ⟨.rows t.runs.items, .rows t.classifications.items, .rows t.findings.items⟩

theorem usable_full (t : RunTables) : t.full.Usable :=
  ⟨Table.usable_rows _, Table.usable_rows _, Table.usable_rows _⟩

variable {t : RunTables}

theorem Usable.ensure_eq (usable : t.Usable) : t.ensure = (t.full, none) := by
  simp only [ensure, usable.runs.ensure_eq, usable.classifications.ensure_eq,
    usable.findings.ensure_eq]
  rfl

theorem ensure_fst (t : RunTables) :
    t.ensure.1 = ⟨t.runs.ensure, t.classifications.ensure, t.findings.ensure⟩ := by
  simp only [ensure]
  split <;> rfl

/-! ## Keeping a run -/

theorem lt_nextId {ids : List Nat} {id : Nat} (h : id ∈ ids) : id < nextId ids := by
  -- The maximum so far only grows, so the induction is over any maximum to start with.
  have bound : ∀ first, first ≤ ids.foldl max first ∧ ∀ i ∈ ids, i ≤ ids.foldl max first := by
    clear h
    induction ids with
    | nil => exact fun first => ⟨le_refl _, fun i hi => by cases hi⟩
    | cons j rest ih =>
        intro first
        obtain ⟨least, all⟩ := ih (max first j)
        refine ⟨le_trans (Nat.le_max_left first j) least, fun i hi => ?_⟩
        rcases List.mem_cons.mp hi with rfl | hi
        · exact le_trans (Nat.le_max_right first i) least
        · exact all i hi
  exact Nat.lt_succ_of_le ((bound 0).2 id h)

theorem insert_full (t : RunTables) (rootPath : String) (r : ScanReport) :
    let runId := nextId (t.runs.items.map (·.id))
    let classifications := number (classificationRow runId)
      (nextId (t.classifications.items.map (·.id))) r.classifications
    let findings := number (findingRow runId) (nextId (t.findings.items.map (·.id))) r.findings
    t.full.insert rootPath r = classifications.forM checkRow >>= fun _ =>
      .ok (⟨.rows (t.runs.items ++ [runRow runId rootPath r]),
          .rows (t.classifications.items ++ classifications),
          .rows (t.findings.items ++ findings)⟩,
        ⟨runId, r.classifications.length, r.findings.length, r.skipped.length, .ofReport r⟩) :=
  rfl

/-- A run that is kept is the last row of its table, under the next id. -/
theorem insert_ok {rootPath : String} {r : ScanReport} {t' : RunTables} {summary : RunSummary}
    (inserted : t.full.insert rootPath r = .ok (t', summary)) :
    t'.Usable ∧ summary.runId = nextId (t.runs.items.map (·.id)) ∧
      t'.runs.items = t.runs.items ++ [runRow summary.runId rootPath r] := by
  rw [insert_full] at inserted
  obtain ⟨-, -, inserted⟩ := bind_eq_ok.mp inserted
  obtain ⟨rfl, rfl⟩ := Prod.mk.inj (Except.ok.inj inserted)
  exact ⟨⟨Table.usable_rows _, Table.usable_rows _, Table.usable_rows _⟩, rfl, rfl⟩

def HasNumbers (c : Classification) : Prop :=
  c.score.toFloat.isNaN = false ∧ c.support.toFloat.isNaN = false

theorem exists_insert (t : RunTables) (rootPath : String) {r : ScanReport}
    (numbers : ∀ c ∈ r.classifications, HasNumbers c) :
    ∃ t' summary, t.full.insert rootPath r = .ok (t', summary) := by
  have checked : ∀ runId first, (number (classificationRow runId) first r.classifications).forM
      checkRow = Except.ok () := by
    intro runId
    generalize r.classifications = cs at numbers
    induction cs with
    | nil => exact fun _ => rfl
    | cons c rest ih =>
        intro first
        have row : checkRow (classificationRow runId first c) = .ok () := by
          obtain ⟨score, support⟩ := numbers c List.mem_cons_self
          simp only [checkRow, classificationRow, score, support, Bool.false_eq_true, if_false]
        have later := ih (fun d hd => numbers d (List.mem_cons_of_mem c hd)) (first + 1)
        rw [number]
        show (checkRow _ >>= fun _ => (number (classificationRow runId) (first + 1) rest).forM
          checkRow) = _
        rw [row]
        exact later
  rw [insert_full, checked]
  exact ⟨_, _, rfl⟩

end RunTables

/-! ## Calls -/

namespace StoreFile

open RunTables

theorem open?_fst (t : RunTables) : (tables t).open?.1 = tables t.ensure.1 := by
  simp only [open?]
  split <;> rename_i found <;> rw [found]

theorem saveRun_error {file file' : StoreFile} {rootPath : String} {r : ScanReport} {e : StoreError}
    (failed : file.saveRun rootPath r = (file', .error e)) : file' = file.open?.1 := by
  unfold saveRun at failed
  cases opened : file.open? with
  | mk file answer =>
      rw [opened] at failed
      cases answer with
      | error e => exact (Prod.mk.inj failed).1.symm
      | ok t =>
          simp only at failed
          split at failed
          · exact (Prod.mk.inj failed).1.symm
          · obtain ⟨-, contrary⟩ := Prod.mk.inj failed
            cases contrary

section

variable {t : RunTables} (usable : t.Usable)
include usable

theorem open?_tables : (tables t).open? = (tables t.full, .ok t.full) := by
  simp only [open?, usable.ensure_eq]

theorem saveRun_tables (rootPath : String) (r : ScanReport) :
    (tables t).saveRun rootPath r =
      match t.full.insert rootPath r with
      | .error e => (tables t.full, .error e)
      | .ok (t', summary) => (tables t', .ok summary) := by
  cases inserted : t.full.insert rootPath r with
  | error e => simp only [saveRun, open?_tables usable, inserted]
  | ok result => simp only [saveRun, open?_tables usable, inserted]

theorem saveRun_ok {rootPath : String} {r : ScanReport} {file' : StoreFile} {summary : RunSummary}
    (saved : (tables t).saveRun rootPath r = (file', .ok summary)) :
    ∃ t', file' = tables t' ∧ t'.Usable ∧ summary.runId = nextId (t.runs.items.map (·.id)) ∧
      t'.runs.items = t.runs.items ++ [runRow summary.runId rootPath r] := by
  rw [saveRun_tables usable] at saved
  split at saved
  · obtain ⟨-, contrary⟩ := Prod.mk.inj saved
    cases contrary
  · rename_i t' summary' inserted
    obtain ⟨rfl, same⟩ := Prod.mk.inj saved
    obtain rfl := Except.ok.inj same
    exact ⟨t', rfl, insert_ok inserted⟩

theorem load_tables (id : Int) : (tables t).load id = (tables t.full, loadFrom t.full id) := by
  simp only [load, open?_tables usable]

theorem loadLatest_tables (rootPath : String) :
    (tables t).loadLatest rootPath =
      match latest? t.full rootPath with
      | none => (tables t.full, .ok none)
      | some row => (tables t.full, (decode row.baselineText).map some) := by
  cases found : latest? t.full rootPath with
  | none => simp only [loadLatest, open?_tables usable, found]
  | some row => simp only [loadLatest, open?_tables usable, found]

end

end StoreFile

/-! ## Rows -/

theorem RunTables.status_runRow (id : Nat) (rootPath : String) (r : ScanReport) :
    (runRow id rootPath r).status = RunStatus.incomplete.word ↔ r.complete = false := by
  have words : RunStatus.completed.word ≠ RunStatus.incomplete.word ∧
      RunStatus.completedWithErrors.word ≠ RunStatus.incomplete.word := by decide
  show (RunStatus.ofReport r).word = _ ↔ _
  unfold RunStatus.ofReport
  cases complete : r.complete with
  | false => simp
  | true =>
      split
      · rename_i contrary
        cases contrary
      · split <;> simp [words]

theorem StoreFile.decode_runRow {rootPath : String} {r : ScanReport}
    (canonical : (r.capture rootPath).Canonical) (id : Nat) :
    decode (RunTables.runRow id rootPath r).baselineText = .ok (r.capture rootPath) := by
  show decode (r.capture rootPath).toJson.lineText = _
  simp only [decode, Json.parse_lineText (Baseline.readable_toJson canonical),
    Baseline.ofJson_reordered canonical Json.isReordering_reread]

end TacticalDesign
