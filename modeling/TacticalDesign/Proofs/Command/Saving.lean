import TacticalDesign.Proofs.Command.Reports
import TacticalDesign.Proofs.Files.Stores
/-!
# What commands leave in files

Two files are looked at: one that baselines are written into, and a run store. A command leaves both
as they are until its scan has a report. From then on a complete report becomes the baseline and the
answer of the store for its root, while an incomplete one is kept in the store but answers nothing.
-/

namespace TacticalDesign

namespace Command

variable {t : FileTree}

def latestIn (t : FileTree) (path root : String) : Except Stop (Option Baseline) :=
  (withStore t path fun file => file.loadLatest root).2

theorem latestIn_eq_ok {path root : String} {b : Option Baseline}
    (lasts : FileTree.Lasts (.ofText path)) :
    latestIn t path root = .ok b ↔
      t.locate (.ofText path) = .ok (t.placeOf (.ofText path)) ∧
        ∃ content, FileTree.storeIn? (t.entry? (t.placeOf (.ofText path))) = some content ∧
          (content.loadLatest root).2 = .ok b := by
  unfold latestIn
  constructor
  · intro h
    rcases withStore_cases t path (·.loadLatest root) with ⟨stop, same, -⟩ | ⟨found, opened, same⟩
    · rw [same] at h
      cases h
    · rw [same] at h
      obtain ⟨located, -, there⟩ := FileTree.openStore_eq_some lasts opened
      exact ⟨located, found.content, there, stopWith_eq_ok.mp h⟩
  · rintro ⟨located, content, there, answer⟩
    rw [withStore, FileTree.openStore_of_located lasts located, there]
    exact stopWith_eq_ok.mpr answer

theorem latestIn_of_opened {path root : String} {b : Option Baseline} {found : FileTree.OpenStore}
    (opened : t.openStore (.ofText path) = .ok (some found)) :
    latestIn t path root = .ok b ↔ (found.content.loadLatest root).2 = .ok b := by
  rw [latestIn, withStore, opened]
  exact stopWith_eq_ok

theorem latestIn_of_transient {path root : String} (transient : ¬FileTree.Lasts (.ofText path)) :
    latestIn t path root = .ok none := by
  rw [latestIn, withStore, FileTree.openStore_of_transient transient]
  rfl

end Command

open Command FileTree

structure SharedFiles where
  baseline : String
  store : String

namespace SharedFiles

variable {s : SharedFiles} {t t' t'' : FileTree} {request : ScanRequest} {a : ScanArguments}
  {rootPath : String} {r : ScanReport}

def basePath (s : SharedFiles) : Path := .ofText s.baseline

def storePath (s : SharedFiles) : Path := .ofText s.store

def Apart (s : SharedFiles) (t : FileTree) : Prop := t.placeOf s.basePath ≠ t.placeOf s.storePath

theorem Apart.of_home (apart : s.Apart t) (home : t'.home = t.home) : s.Apart t' := by
  rw [Apart, placeOf_of_home home, placeOf_of_home home]
  exact apart

/-- What stands in the file for baselines is still there, and reads as before. -/
structure KeepsFile (s : SharedFiles) (t t' : FileTree) : Prop where
  there : t'.fileAt? s.basePath = t.fileAt? s.basePath
  reads : ∀ bytes, t.read s.basePath = .ok bytes → t'.read s.basePath = .ok bytes

def KeepsAnswer (s : SharedFiles) (root : String) (t t' : FileTree) : Prop :=
  ∀ b, latestIn t s.store root = .ok b → latestIn t' s.store root = .ok b

structure Undisturbed (s : SharedFiles) (t t' : FileTree) : Prop where
  home : t'.home = t.home
  file : s.KeepsFile t t'
  answers : ∀ root, s.KeepsAnswer root t t'

theorem keepsAnswer_of_transient (transient : ¬Lasts s.storePath) (root : String) :
    s.KeepsAnswer root t t' := by
  intro b h
  rw [latestIn_of_transient transient] at h ⊢
  exact h

theorem Undisturbed.refl (s : SharedFiles) (t : FileTree) : s.Undisturbed t t :=
  ⟨rfl, ⟨rfl, fun _ => id⟩, fun _ _ => id⟩

theorem KeepsFile.trans (h : s.KeepsFile t t') (h' : s.KeepsFile t' t'') : s.KeepsFile t t'' :=
  ⟨h'.there.trans h.there, fun b hb => h'.reads b (h.reads b hb)⟩

theorem Undisturbed.trans (h : s.Undisturbed t t') (h' : s.Undisturbed t' t'') :
    s.Undisturbed t t'' :=
  ⟨h'.home.trans h.home, h.file.trans h'.file,
    fun root b hb => h'.answers root b (h.answers root b hb)⟩

/-- A baseline that is in the file is read from it as long as the file is kept. -/
theorem KeepsFile.ofDocument_eq {b : Baseline} (h : s.KeepsFile t t')
    (holds : Baseline.ofDocument (t.read s.basePath) = .ok b) :
    Baseline.ofDocument (t'.read s.basePath) = .ok b := by
  cases read : t.read s.basePath with
  | error e =>
      rw [read] at holds
      cases holds
  | ok bytes =>
      rw [h.reads bytes read, ← read]
      exact holds

/-! ### Writing elsewhere -/

theorem keepsFile_of_changesAt {q : List String} (changes : ChangesAt q t t')
    (differ : t.placeOf s.basePath ≠ q) : s.KeepsFile t t' :=
  ⟨changes.fileAt?_eq differ, fun _ => changes.read_eq differ⟩

theorem answers_of_changesAt {q : List String} (changes : ChangesAt q t t')
    (differ : t.placeOf s.storePath ≠ q) (opens : t'.openStore s.storePath ≠ .ok none)
    (root : String) : s.KeepsAnswer root t t' := by
  by_cases lasts : Lasts s.storePath
  · intro b h
    obtain ⟨located, content, there, answer⟩ := (latestIn_eq_ok lasts).mp h
    have located' := changes.locate_eq located
    refine (latestIn_eq_ok lasts).mpr ?_
    rw [changes.placeOf_eq]
    refine ⟨located', content, ?_, answer⟩
    rcases changes.keeps _ differ with same | ⟨-, directory⟩
    · exact same ▸ there
    · -- a directory in the place of the store cannot be opened
      refine absurd ?_ opens
      rw [openStore_of_located lasts located']
      exact congrArg (fun e => Except.ok ((storeIn? e).map _)) directory
  · exact keepsAnswer_of_transient lasts root

theorem undisturbed_of_changesAt {q : List String} (changes : ChangesAt q t t')
    (base : t.placeOf s.basePath ≠ q) (store : t.placeOf s.storePath ≠ q)
    (opens : t'.openStore s.storePath ≠ .ok none) : s.Undisturbed t t' where
  home := changes.larger.1
  file := keepsFile_of_changesAt changes base
  answers := answers_of_changesAt changes store opens

/-- A store that is kept with the same answers disturbs neither file, be it the same store or
another one. -/
theorem undisturbed_keepStore {path : String} {found : OpenStore} {kept : StoreFile}
    (opened : t.openStore (.ofText path) = .ok (some found))
    (base : t.placeOf (.ofText path) ≠ t.placeOf s.basePath)
    (same : kept = .foreign → found.content = .foreign)
    (answers : ∀ root, (kept.loadLatest root).2 = (found.content.loadLatest root).2) :
    s.Undisturbed t (t.keepStore found.place kept) := by
  by_cases lasts : Lasts (.ofText path)
  · obtain ⟨located, place, there⟩ := openStore_eq_some lasts opened
    rw [place]
    obtain ⟨changes, elsewhere⟩ := keepStore_changes located there kept
    refine ⟨changes.larger.1, keepsFile_of_changesAt changes base.symm, fun root => ?_⟩
    by_cases lasting : Lasts s.storePath
    · intro b h
      obtain ⟨located', content, there', answer⟩ := (latestIn_eq_ok lasting).mp h
      refine (latestIn_eq_ok lasting).mpr ?_
      rw [changes.placeOf_eq]
      refine ⟨changes.locate_eq located', ?_⟩
      by_cases here : t.placeOf (.ofText s.store) = t.placeOf (.ofText path)
      · rw [here] at there' ⊢
        obtain rfl := Option.some.inj (there'.symm.trans there)
        exact ⟨kept, storeIn?_keepStore there same, (answers root).trans answer⟩
      · rw [elsewhere _ here]
        exact ⟨content, there', answer⟩
    · exact keepsAnswer_of_transient lasting root
  · rw [keepStore_of_transient lasts opened]
    exact .refl s t

/-! ### Commands -/

/-- A command that writes no other baseline and keeps its run in no other store, and does not take
the file for baselines for a store. -/
structure UsedBy (s : SharedFiles) (t : FileTree) (request : ScanRequest) : Prop where
  saves : ∀ path, given? request.arguments.saveBaseline = some path → path = s.baseline
  keeps : ∀ path, given? request.arguments.store = some path → path = s.store
  reference : ∀ path, request.arguments.reference = some (.store path) →
    t.placeOf (.ofText path) ≠ t.placeOf s.basePath

theorem undisturbed_of_survey (used : s.UsedBy t request) (tools : Tools) (scans : Scans) :
    s.Undisturbed t (survey tools t request scans).1 := by
  rcases survey_fst tools t request scans with same | ⟨path, found, compared, opened, same⟩
  · rw [same]
    exact .refl s t
  · rw [same]
    exact undisturbed_keepStore opened (used.reference path compared) StoreFile.foreign_of_open?
      found.content.loadLatest_open?

theorem saveBaseline_cases (t : FileTree) (a : ScanArguments) (r : ScanReport) (rootPath : String) :
    (given? a.saveBaseline = none ∨ r.complete = false) ∧
      saveBaseline t a r rootPath = .ok t ∨
    ∃ path, given? a.saveBaseline = some path ∧ r.complete = true ∧
      saveBaseline t a r rootPath = stopWith (fun e : FileError => .reported e.message)
        (t.writeFile (.ofText path) (bytesOf (r.capture rootPath).toJson.indentedText)) := by
  unfold saveBaseline
  cases given : given? a.saveBaseline with
  | none => exact Or.inl ⟨Or.inl rfl, rfl⟩
  | some path =>
      cases complete : r.complete with
      | false => exact Or.inl ⟨Or.inr rfl, rfl⟩
      | true => exact Or.inr ⟨path, rfl, rfl, rfl⟩

theorem saveRun_cases (t : FileTree) (a : ScanArguments) (r : ScanReport) (rootPath : String) :
    given? a.store = none ∧ saveRun t a r rootPath = (t, .ok ()) ∨
    ∃ path, given? a.store = some path ∧
      ((∃ stop, saveRun t a r rootPath = (t, .error stop) ∧
          (t.openStore (.ofText path) = .ok none → stop = .aborted .storeUnopenable)) ∨
        ∃ found, t.openStore (.ofText path) = .ok (some found) ∧
          saveRun t a r rootPath = (t.keepStore found.place (found.content.saveRun rootPath r).1,
            (stopWith (fun e : StoreError => .reported e.message)
              (found.content.saveRun rootPath r).2).map fun _ => ())) := by
  unfold saveRun
  cases given : given? a.store with
  | none => exact Or.inl ⟨rfl, rfl⟩
  | some path =>
      refine Or.inr ⟨path, rfl, ?_⟩
      rcases withStore_cases t path (·.saveRun rootPath r) with
        ⟨stop, same, closed⟩ | ⟨found, opened, same⟩
      · simp only [same]
        exact Or.inl ⟨stop, rfl, closed⟩
      · simp only [same]
        exact Or.inr ⟨found, opened, rfl⟩

/-- The store answers with a report for its root, if the report is kept, and otherwise as before. -/
def Answers (s : SharedFiles) (rootPath : String) (r : ScanReport) (kept : Bool)
    (t t' : FileTree) : Prop :=
  ∀ root, if kept = true ∧ rootPath = root then
      latestIn t' s.store root = .ok (some (r.capture rootPath))
    else s.KeepsAnswer root t t'

theorem Answers.keeps (h : s.Answers rootPath r false t t') (root : String) :
    s.KeepsAnswer root t t' := by
  have kept := h root
  rwa [if_neg fun h => Bool.noConfusion h.1] at kept

theorem Undisturbed.unanswered (h : s.Undisturbed t t') : s.Answers rootPath r false t t' := by
  intro root
  rw [if_neg fun h => Bool.noConfusion h.1]
  exact h.answers root

theorem Answers.after {kept : Bool} (h : s.Answers rootPath r kept t' t'')
    (before : ∀ root, s.KeepsAnswer root t t') : s.Answers rootPath r kept t t'' := by
  intro root
  have answer := h root
  split at answer
  · rwa [if_pos ‹_›]
  · rw [if_neg ‹_›]
    exact fun b hb => answer b (before root b hb)

/-- What a complete report leaves in the files that a command names, be it kept in the store or
not. -/
structure Left (s : SharedFiles) (a : ScanArguments) (rootPath : String) (r : ScanReport)
    (kept : Bool) (t t' : FileTree) : Prop where
  home : t'.home = t.home
  file : if (given? a.saveBaseline).isSome then
      Baseline.ofDocument (t'.read s.basePath) = .ok (r.capture rootPath)
    else s.KeepsFile t t'
  answers : (given? a.store).isSome →
    s.Answers rootPath r (kept && decide (Lasts s.storePath)) t t'

section

variable (apart : s.Apart t) (keeps : ∀ path, given? a.store = some path → path = s.store)
include apart keeps

theorem undisturbed_of_unkept {stop : Stop} (h : saveRun t a r rootPath = (t', .error stop)) :
    s.Undisturbed t t' := by
  rcases saveRun_cases t a r rootPath with
    ⟨-, same⟩ | ⟨path, given, ⟨stop', same, -⟩ | ⟨found, opened, same⟩⟩
  · rw [same] at h
    cases h
  · rw [same] at h
    obtain rfl := (Prod.mk.inj h).1
    exact .refl s t
  · rw [same] at h
    obtain ⟨rfl, answer⟩ := Prod.mk.inj h
    obtain rfl := keeps path given
    rcases saved : found.content.saveRun rootPath r with ⟨file', e | summary⟩
    · have same : found.content.open?.1 = .foreign → found.content = .foreign :=
        StoreFile.foreign_of_open?
      rw [← StoreFile.saveRun_error saved] at same
      exact undisturbed_keepStore opened apart.symm same (StoreFile.loadLatest_of_unsaved saved)
    · rw [saved] at answer
      cases answer

theorem answers_of_kept (canonical : (r.capture rootPath).Canonical)
    (h : saveRun t a r rootPath = (t', .ok ())) :
    t'.home = t.home ∧ s.KeepsFile t t' ∧
      s.Answers rootPath r (r.complete && (given? a.store).isSome && decide (Lasts s.storePath))
        t t' := by
  rcases saveRun_cases t a r rootPath with
    ⟨ungiven, same⟩ | ⟨path, given, ⟨stop', same, -⟩ | ⟨found, opened, same⟩⟩
  · rw [same] at h
    obtain rfl := (Prod.mk.inj h).1
    rw [ungiven, Option.isSome_none, Bool.and_false, Bool.false_and]
    exact ⟨rfl, ⟨rfl, fun _ => id⟩, (Undisturbed.refl s t).unanswered⟩
  · rw [same] at h
    cases h
  · rw [same] at h
    obtain ⟨rfl, answer⟩ := Prod.mk.inj h
    obtain rfl := keeps path given
    rcases saved : found.content.saveRun rootPath r with ⟨file', e | summary⟩
    · rw [saved] at answer
      cases answer
    by_cases lasts : Lasts s.storePath
    swap
    · -- a transient store is forgotten
      rw [decide_eq_false lasts, Bool.and_false, keepStore_of_transient lasts opened]
      exact ⟨rfl, ⟨rfl, fun _ => id⟩, (Undisturbed.refl s t).unanswered⟩
    obtain ⟨located, place, there⟩ := openStore_eq_some lasts opened
    obtain ⟨tables, rfl⟩ := StoreFile.tables_of_saveRun saved
    obtain ⟨changes, -⟩ := keepStore_changes located there (.tables tables)
    have reopened :
        FileTree.openStore (t.keepStore found.place (.tables tables)) (.ofText s.store) =
          .ok (some ⟨found.place, .tables tables⟩) := openStore_keepStore lasts opened nofun
    rw [given, Option.isSome_some, Bool.and_true, decide_eq_true lasts, Bool.and_true]
    refine ⟨?_, ?_, fun root => ?_⟩
    · rw [place]
      exact changes.larger.1
    · rw [place]
      exact keepsFile_of_changesAt changes apart
    · have latest := StoreFile.loadLatest_of_saveRun saved canonical root
      split
      · rename_i chosen
        rw [if_pos chosen.symm] at latest
        exact (latestIn_of_opened reopened).mpr latest
      · rename_i other
        rw [if_neg fun h => other h.symm] at latest
        intro b answered
        exact (latestIn_of_opened reopened).mpr
          (latest.trans ((latestIn_of_opened opened).mp answered))

end

section

variable (apart : s.Apart t)
  (saves : ∀ path, given? a.saveBaseline = some path → path = s.baseline)
  (keeps : ∀ path, given? a.store = some path → path = s.store)
  (canonical : (r.capture rootPath).Canonical) {answer : Except Stop Unit}
include apart keeps canonical

theorem left_of_unwritten (unwritten : given? a.saveBaseline = none ∨ r.complete = false)
    (h : saveRun t a r rootPath = (t', answer)) :
    (r.complete = false ∨ ∃ stop, answer = .error stop) ∧ s.Undisturbed t t' ∨
      r.complete = true ∧ s.Left a rootPath r answer.toBool t t' := by
  rcases answer with stop | ⟨⟩
  · exact Or.inl ⟨Or.inr ⟨stop, rfl⟩, undisturbed_of_unkept apart keeps h⟩
  obtain ⟨home, file, answers⟩ := answers_of_kept apart keeps canonical h
  cases complete : r.complete with
  | false =>
      rw [complete] at answers
      exact Or.inl ⟨Or.inl rfl, home, file, answers.keeps⟩
  | true =>
      have ungiven : given? a.saveBaseline = none := unwritten.resolve_right (by simp [complete])
      refine Or.inr ⟨rfl, home, ?_, fun stored => ?_⟩
      · rw [ungiven]
        exact file
      · rwa [complete, stored] at answers

theorem left_of_written {t₁ : FileTree} (given : given? a.saveBaseline = some s.baseline)
    (complete : r.complete = true)
    (written : t.writeFile s.basePath (bytesOf (r.capture rootPath).toJson.indentedText) = .ok t₁)
    (h : saveRun t₁ a r rootPath = (t', answer)) (told : ∀ b, answer ≠ .error (.aborted b)) :
    s.Left a rootPath r answer.toBool t t' := by
  have changes := changesAt_writeFile written
  have apart₁ := apart.of_home changes.larger.1
  have holds : Baseline.ofDocument (t₁.read s.basePath) = .ok (r.capture rootPath) := by
    have read := Baseline.ofDocument_of_writeFile canonical written
    rwa [Baseline.reread_eq] at read
  -- a store that the new directories had closed would have ended the command
  have before (stored : (given? a.store).isSome) (root : String) : s.KeepsAnswer root t t₁ := by
    refine answers_of_changesAt changes apart.symm (fun closed => ?_) root
    rcases saveRun_cases t₁ a r rootPath with
      ⟨ungiven, -⟩ | ⟨path, given', ⟨stop, failed, aborted⟩ | ⟨found, opened, -⟩⟩
    · rw [ungiven] at stored
      cases stored
    · obtain rfl := keeps path given'
      rw [aborted closed, h] at failed
      exact told _ (Prod.mk.inj failed).2
    · obtain rfl := keeps path given'
      cases opened.symm.trans closed
  rcases answer with stop | ⟨⟩
  · have unkept := undisturbed_of_unkept apart₁ keeps h
    refine ⟨unkept.home.trans changes.larger.1, ?_, fun stored => ?_⟩
    · rw [given]
      exact unkept.file.ofDocument_eq holds
    · exact unkept.unanswered.after (before stored)
  · obtain ⟨home, file, answers⟩ := answers_of_kept apart₁ keeps canonical h
    refine ⟨home.trans changes.larger.1, ?_, fun stored => ?_⟩
    · rw [given]
      exact file.ofDocument_eq holds
    · rw [complete, stored] at answers
      exact answers.after (before stored)

include saves in
/-- What the store step of a report leaves behind, unless the store cannot be opened. Where it fails
after a complete report has been written, the file holds that report and the store is as before. -/
theorem left_of_saveAll (h : saveAll t a r rootPath = (t', answer))
    (told : ∀ b, answer ≠ .error (.aborted b)) :
    (r.complete = false ∨ ∃ stop, answer = .error stop) ∧ s.Undisturbed t t' ∨
      r.complete = true ∧ s.Left a rootPath r answer.toBool t t' := by
  unfold saveAll at h
  rcases saveBaseline_cases t a r rootPath with ⟨unwritten, same⟩ | ⟨path, given, complete, same⟩
  · rw [same] at h
    exact left_of_unwritten apart keeps canonical unwritten h
  · obtain rfl := saves path given
    rw [same] at h
    rcases written : t.writeFile (.ofText s.baseline)
        (bytesOf (r.capture rootPath).toJson.indentedText) with e | t₁
    · rw [written] at h
      obtain ⟨rfl, rfl⟩ := Prod.mk.inj h
      exact Or.inl ⟨Or.inr ⟨_, rfl⟩, .refl s t⟩
    · rw [written] at h
      exact Or.inr ⟨complete, left_of_written apart keeps canonical given complete written h told⟩

end

end SharedFiles

end TacticalDesign
