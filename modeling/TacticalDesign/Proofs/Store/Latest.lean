import TacticalDesign.Proofs.Store.Tables
/-!
# The latest run of a store

What `loadLatest` answers after one more call, whatever a file held before. Opening a file and a
call that fails change no answer; a run that is kept is the answer for its root, unless it is
incomplete.
-/

namespace TacticalDesign

namespace Table

variable {α : Type}

theorem ensure_ensure (t : Table α) : t.ensure.ensure = t.ensure := by
  cases t <;> rfl

theorem usable_of_writable {t : Table α} {name column : String} {items : List α}
    (h : t.writable name column = .ok items) : t.Usable := by
  rintro rfl
  cases h

theorem usable_of_ensure {t : Table α} (h : t.ensure.Usable) : t.Usable := by
  rintro rfl
  exact h rfl

end Table

namespace RunTables

variable {t : RunTables}

theorem ensure_ensure (t : RunTables) : t.ensure.1.ensure = t.ensure := by
  rw [ensure_fst]
  simp only [ensure, Table.ensure_ensure]

theorem usable_of_ensure (h : t.ensure.1.Usable) : t.Usable := by
  rw [ensure_fst] at h
  exact ⟨Table.usable_of_ensure h.runs, Table.usable_of_ensure h.classifications,
    Table.usable_of_ensure h.findings⟩

theorem usable_of_insert {rootPath : String} {r : ScanReport} {result : RunTables × RunSummary}
    (h : t.insert rootPath r = .ok result) : t.Usable := by
  unfold insert at h
  obtain ⟨runs, found, h⟩ := bind_eq_ok.mp h
  obtain ⟨old, found', h⟩ := bind_eq_ok.mp h
  obtain ⟨-, -, h⟩ := bind_eq_ok.mp h
  obtain ⟨oldFindings, found'', -⟩ := bind_eq_ok.mp h
  exact ⟨Table.usable_of_writable found, Table.usable_of_writable found',
    Table.usable_of_writable found''⟩

end RunTables

namespace StoreFile

open RunTables

variable {file file' : StoreFile} {rootPath root : String} {r : ScanReport} {summary : RunSummary}

/-! ## Opening -/

theorem open?_open? (file : StoreFile) : file.open?.1.open? = file.open? := by
  cases file with
  | foreign => rfl
  | tables t =>
      rw [open?_fst]
      simp only [open?, ensure_ensure]

theorem foreign_of_open? (h : file.open?.1 = .foreign) : file = .foreign := by
  cases file with
  | foreign => rfl
  | tables t =>
      rw [open?_fst] at h
      cases h

theorem loadLatest_fst (file : StoreFile) (root : String) :
    (file.loadLatest root).1 = file.open?.1 := by
  unfold loadLatest
  rcases file.open? with ⟨opened, e | t⟩
  · rfl
  · dsimp only
    split <;> rfl

theorem loadLatest_open? (file : StoreFile) (root : String) :
    (file.open?.1.loadLatest root).2 = (file.loadLatest root).2 := by
  unfold loadLatest
  rw [open?_open?]

theorem loadLatest_of_unsaved {e : StoreError}
    (failed : file.saveRun rootPath r = (file', .error e)) (root : String) :
    (file'.loadLatest root).2 = (file.loadLatest root).2 := by
  obtain rfl := saveRun_error failed
  exact loadLatest_open? file root

/-! ## One more run -/

theorem usable_of_saveRun (saved : file.saveRun rootPath r = (file', .ok summary)) :
    ∃ t : RunTables, file = tables t ∧ t.Usable := by
  cases file with
  | foreign => cases saved
  | tables t =>
      refine ⟨t, rfl, usable_of_ensure ?_⟩
      rcases ensured : t.ensure with ⟨t', e | ⟨⟩⟩
      · simp only [saveRun, open?, ensured] at saved
        split at saved
        · cases saved
        · rename_i result inserted
          exact usable_of_insert inserted
      · simp only [saveRun, open?, ensured] at saved
        cases saved

theorem tables_of_saveRun (saved : file.saveRun rootPath r = (file', .ok summary)) :
    ∃ t' : RunTables, file' = tables t' := by
  obtain ⟨t, rfl, usable⟩ := usable_of_saveRun saved
  obtain ⟨t', rfl, -⟩ := saveRun_ok usable saved
  exact ⟨t', rfl⟩

theorem latest?_append {t t' : RunTables} {row : RunRow}
    (rows : t'.runs.items = t.runs.items ++ [row]) (root : String) :
    latest? t'.full root =
      if row.rootPath = root ∧ row.status ≠ RunStatus.incomplete.word then some row
      else latest? t.full root := by
  show (t'.runs.items.filter _).getLast? = _
  rw [rows, List.filter_append]
  by_cases chosen : row.rootPath = root ∧ row.status ≠ RunStatus.incomplete.word
  · rw [if_pos chosen, List.filter_cons_of_pos (by simp [chosen]), List.filter_nil,
      List.getLast?_concat]
  · rw [if_neg chosen, List.filter_cons_of_neg (by simpa using chosen), List.filter_nil,
      List.append_nil]
    rfl

/-- A complete run that has been kept is what its root answers with; every other answer stays. -/
theorem loadLatest_of_saveRun (saved : file.saveRun rootPath r = (file', .ok summary))
    (canonical : (r.capture rootPath).Canonical) (root : String) :
    (file'.loadLatest root).2 =
      if rootPath = root ∧ r.complete = true then .ok (some (r.capture rootPath))
      else (file.loadLatest root).2 := by
  obtain ⟨t, rfl, usable⟩ := usable_of_saveRun saved
  obtain ⟨t', rfl, usable', -, rows⟩ := saveRun_ok usable saved
  have chosen : (runRow summary.runId rootPath r).rootPath = root ∧
      (runRow summary.runId rootPath r).status ≠ RunStatus.incomplete.word ↔
      rootPath = root ∧ r.complete = true := by
    rw [Ne, status_runRow, Bool.not_eq_false]
    rfl
  rw [loadLatest_tables usable', latest?_append rows, loadLatest_tables usable]
  by_cases complete : rootPath = root ∧ r.complete = true
  · simp only [if_pos complete, if_pos (chosen.mpr complete)]
    rw [decode_runRow canonical]
    rfl
  · simp only [if_neg complete, if_neg fun h => complete (chosen.mp h)]
    split <;> rfl

end StoreFile

end TacticalDesign
