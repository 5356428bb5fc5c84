import TacticalDesign.Proofs.Command.Failing
/-!
# Sessions

Commands one after the other that share a file for baselines and a run store. Between them anything
may happen to all other files, so every command may find other sources. The file holds the last
complete report of the session, and the store answers for each root with the last complete report of
that root; commands that stop short of a report and incomplete reports change neither.
-/

namespace TacticalDesign

open Command FileTree

namespace SharedFiles

/-- A command that names both files, and writes to the place of neither in any other way. -/
structure Shares (s : SharedFiles) (t : FileTree) (request : ScanRequest) : Prop where
  saves : given? request.arguments.saveBaseline = some s.baseline
  keeps : given? request.arguments.store = some s.store
  reference : ∀ path, request.arguments.reference = some (.store path) →
    t.placeOf (.ofText path) ≠ t.placeOf s.basePath
  output : ∀ path, request.arguments.format = .json →
    given? request.arguments.output = some path →
      t.placeOf (.ofText path) ≠ t.placeOf s.basePath ∧
        t.placeOf (.ofText path) ≠ t.placeOf s.storePath

/-- The reports that were stored, with their roots, and the tree at the end. -/
inductive Session (s : SharedFiles) (tools : Tools) (start : FileTree) :
    List (String × ScanReport) → FileTree → Prop where
  | nil : Session s tools start [] start
  | stopped {done : List (String × ScanReport)} {t t' : FileTree} {request : ScanRequest}
      {scans : Scans} {stop : Stop}
      (before : Session s tools start done t) (shares : s.Shares t request)
      (feasible : Feasible t request scans)
      (stops : survey tools t request scans = (t', .error stop)) :
      Session s tools start done (scanOn tools t request scans).tree
  | stored {done : List (String × ScanReport)} {t t₁ t₂ : FileTree} {request : ScanRequest}
      {scans : Scans} {rootPath : String} {r : ScanReport}
      (before : Session s tools start done t) (shares : s.Shares t request)
      (feasible : Feasible t request scans)
      (surveyed : survey tools t request scans = (t₁, .ok (rootPath, r)))
      (saved : saveAll t₁ request.arguments r rootPath = (t₂, .ok ())) :
      Session s tools start (done ++ [(rootPath, r)]) (scanOn tools t request scans).tree
  /-- A command that ends between storing its report and showing it. -/
  | unshown {done : List (String × ScanReport)} {t t₁ t₂ : FileTree} {request : ScanRequest}
      {scans : Scans} {rootPath : String} {r : ScanReport}
      (before : Session s tools start done t) (shares : s.Shares t request)
      (feasible : Feasible t request scans)
      (surveyed : survey tools t request scans = (t₁, .ok (rootPath, r)))
      (saved : saveAll t₁ request.arguments r rootPath = (t₂, .ok ())) :
      Session s tools start (done ++ [(rootPath, r)]) t₂
  | elsewhere {done : List (String × ScanReport)} {t t' : FileTree}
      (before : Session s tools start done t) (others : s.Undisturbed t t') :
      Session s tools start done t'

variable {s : SharedFiles} {tools : Tools} {start t t' t₁ t₂ : FileTree}
  {request : ScanRequest} {scans : Scans} {a : ScanArguments}
  {rootPath : String} {r : ScanReport} {done : List (String × ScanReport)}

theorem Shares.usedBy (shares : s.Shares t request) : s.UsedBy t request where
  saves _ given := Option.some.inj (given.symm.trans shares.saves)
  keeps _ given := Option.some.inj (given.symm.trans shares.keeps)
  reference := shares.reference

theorem Shares.of_home (shares : s.Shares t request) (home : t'.home = t.home) :
    s.Shares t' request where
  saves := shares.saves
  keeps := shares.keeps
  reference path compared := by
    rw [placeOf_of_home home, placeOf_of_home home]
    exact shares.reference path compared
  output path format given := by
    rw [placeOf_of_home home, placeOf_of_home home, placeOf_of_home home]
    exact shares.output path format given

/-! ### Showing a report -/

theorem store_of_saveRun (lasts : Lasts s.storePath) (keeps : given? a.store = some s.store)
    (saved : saveRun t a r rootPath = (t', .ok ())) :
    t'.locate s.storePath = .ok (t'.placeOf s.storePath) ∧
      ∃ content, t'.entry? (t'.placeOf s.storePath) = some (.store content) := by
  rcases saveRun_cases t a r rootPath with
    ⟨ungiven, -⟩ | ⟨path, given, ⟨stop, same, -⟩ | ⟨found, opened, same⟩⟩
  · rw [keeps] at ungiven
    cases ungiven
  · rw [same] at saved
    cases saved
  obtain rfl := Option.some.inj (given.symm.trans keeps)
  rw [same] at saved
  obtain ⟨rfl, answer⟩ := Prod.mk.inj saved
  rcases kept : found.content.saveRun rootPath r with ⟨file', e | summary⟩
  · rw [kept] at answer
    cases answer
  obtain ⟨located, place, there⟩ := openStore_eq_some lasts opened
  obtain ⟨tables, rfl⟩ := StoreFile.tables_of_saveRun kept
  have free := isDirectory_of_storeIn? there
  rw [place]
  obtain ⟨changes, -⟩ := keepStore_changes located there (.tables tables)
  rw [changes.placeOf_eq]
  exact ⟨changes.locate_eq located, .tables tables, entry?_put free _ nofun⟩

theorem store_of_saveAll (lasts : Lasts s.storePath) (keeps : given? a.store = some s.store)
    (saved : saveAll t a r rootPath = (t', .ok ())) :
    t'.locate s.storePath = .ok (t'.placeOf s.storePath) ∧
      ∃ content, t'.entry? (t'.placeOf s.storePath) = some (.store content) := by
  unfold saveAll at saved
  split at saved
  · cases saved
  · exact store_of_saveRun lasts keeps saved

theorem undisturbed_of_present {shown : List Display} (lasts : Lasts s.storePath)
    (shares : s.Shares t request) (keeps : t.locate s.storePath = .ok (t.placeOf s.storePath))
    {content : StoreFile} (there : t.entry? (t.placeOf s.storePath) = some (.store content))
    (presented : present t request.arguments r = .ok (t', shown)) : s.Undisturbed t t' := by
  unfold present at presented
  split at presented
  · obtain ⟨rfl, -⟩ := Prod.mk.inj (Except.ok.inj presented)
    exact .refl s t
  · obtain ⟨rfl, -⟩ := Prod.mk.inj (Except.ok.inj presented)
    exact .refl s t
  · rename_i path format given
    split at presented
    · rename_i t₁ written
      obtain ⟨rfl, -⟩ := Prod.mk.inj (Except.ok.inj presented)
      obtain ⟨base, store⟩ := shares.output path format given
      have changes := changesAt_writeFile written
      refine undisturbed_of_changesAt changes base.symm store.symm fun closed => ?_
      have opened := openStore_of_located lasts (changes.locate_eq keeps)
      rw [changes.entry?_eq store.symm there, closed] at opened
      cases opened
    · cases presented
    · cases presented

/-- What is done to other files later changes nothing about a report that has been left. -/
theorem Left.then {kept : Bool} (h : s.Left a rootPath r kept t t₁) (later : s.Undisturbed t₁ t₂) :
    s.Left a rootPath r kept t t₂ where
  home := later.home.trans h.home
  file := by
    have file := h.file
    split at file
    · rw [if_pos ‹_›]
      exact later.file.ofDocument_eq file
    · rw [if_neg ‹_›]
      exact file.trans later.file
  answers stored root := by
    have answer := h.answers stored root
    split at answer
    · rw [if_pos ‹_›]
      exact later.answers root _ answer
    · rw [if_neg ‹_›]
      exact fun b hb => later.answers root b (answer b hb)

/-! ### What the files reflect -/

def lastComplete? (done : List (String × ScanReport)) : Option (String × ScanReport) :=
  (done.filter (·.2.complete)).getLast?

theorem lastComplete?_append (done : List (String × ScanReport)) (d : String × ScanReport) :
    lastComplete? (done ++ [d]) = if d.2.complete then some d else lastComplete? done := by
  unfold lastComplete?
  rw [List.filter_append]
  cases complete : d.2.complete with
  | false =>
      rw [List.filter_cons_of_neg (by simp [complete]), List.filter_nil, List.append_nil,
        if_neg Bool.false_ne_true]
  | true =>
      rw [List.filter_cons_of_pos (by simp [complete]), List.filter_nil, List.getLast?_concat,
        if_pos rfl]

def reportsOf (root : String) (done : List (String × ScanReport)) : List (String × ScanReport) :=
  done.filter (·.1 = root)

theorem reportsOf_append (root : String) (done : List (String × ScanReport))
    (d : String × ScanReport) :
    reportsOf root (done ++ [d]) =
      if d.1 = root then reportsOf root done ++ [d] else reportsOf root done := by
  unfold reportsOf
  rw [List.filter_append]
  by_cases here : d.1 = root
  · rw [if_pos here, List.filter_cons_of_pos (by simpa using here), List.filter_nil]
  · rw [if_neg here, List.filter_cons_of_neg (by simpa using here), List.filter_nil,
      List.append_nil]

def FileReflects (s : SharedFiles) (start : FileTree) (last : Option (String × ScanReport))
    (t : FileTree) : Prop :=
  match last with
  | some (rootPath, r) => Baseline.ofDocument (t.read s.basePath) = .ok (r.capture rootPath)
  | none => s.KeepsFile start t

def StoreReflects (s : SharedFiles) (start : FileTree) (root : String)
    (last : Option (String × ScanReport)) (t : FileTree) : Prop :=
  match last with
  | some (_, r) => latestIn t s.store root = .ok (some (r.capture root))
  | none => s.KeepsAnswer root start t

structure Reflects (s : SharedFiles) (start : FileTree) (done : List (String × ScanReport))
    (t : FileTree) : Prop where
  home : t.home = start.home
  file : s.FileReflects start (lastComplete? done) t
  store : ∀ root, s.StoreReflects start root (lastComplete? (reportsOf root done)) t

namespace Reflects

theorem nil (s : SharedFiles) (t : FileTree) : s.Reflects t [] t :=
  ⟨rfl, (Undisturbed.refl s t).file, (Undisturbed.refl s t).answers⟩

theorem of_undisturbed (h : s.Reflects start done t) (others : s.Undisturbed t t') :
    s.Reflects start done t' where
  home := others.home.trans h.home
  file := by
    have file := h.file
    unfold FileReflects at file ⊢
    split at file
    · exact others.file.ofDocument_eq file
    · exact KeepsFile.trans file others.file
  store root := by
    have store := h.store root
    unfold StoreReflects at store ⊢
    split at store
    · exact others.answers root _ store
    · exact fun b hb => others.answers root b (store b hb)

theorem of_incomplete (h : s.Reflects start done t) (incomplete : r.complete = false) :
    s.Reflects start (done ++ [(rootPath, r)]) t where
  home := h.home
  file := by
    rw [lastComplete?_append, if_neg (by simp [incomplete])]
    exact h.file
  store root := by
    rw [reportsOf_append]
    split
    · rw [lastComplete?_append, if_neg (by simp [incomplete])]
      exact h.store root
    · exact h.store root

theorem of_left (h : s.Reflects start done t) (lasts : Lasts s.storePath)
    (shares : s.Shares t request) (complete : r.complete = true)
    (left : s.Left request.arguments rootPath r true t t') :
    s.Reflects start (done ++ [(rootPath, r)]) t' where
  home := left.home.trans h.home
  file := by
    have file := left.file
    rw [shares.saves] at file
    rw [lastComplete?_append, if_pos complete]
    exact file
  store root := by
    have answers := left.answers (by rw [shares.keeps]; rfl) root
    rw [decide_eq_true lasts] at answers
    rw [reportsOf_append]
    split
    · rename_i here
      rw [if_pos ⟨rfl, here⟩] at answers
      rw [lastComplete?_append, if_pos complete]
      exact here ▸ answers
    · rename_i elsewhere
      rw [if_neg fun h => elsewhere h.2] at answers
      have store := h.store root
      unfold StoreReflects at store ⊢
      split at store
      · exact answers _ store
      · exact fun b hb => answers b (store b hb)

end Reflects

/-! ### Sessions -/

theorem undisturbed_of_stopped (shares : s.Shares t request) {stop : Stop}
    (stops : survey tools t request scans = (t', .error stop)) :
    s.Undisturbed t (scanOn tools t request scans).tree := by
  have before := undisturbed_of_survey shares.usedBy tools scans
  rw [stops] at before
  rw [scanOn_of_stopped stops, stopped_tree]
  exact before

section

variable (faithful : Faithful tools.frontEnd) (apart : s.Apart t) (shares : s.Shares t request)
  (feasible : Feasible t request scans)
  (surveyed : survey tools t request scans = (t₁, .ok (rootPath, r)))
  (saved : saveAll t₁ request.arguments r rootPath = (t₂, .ok ()))
include faithful apart shares feasible surveyed saved

theorem left_of_saved :
    r.complete = false ∧ s.Undisturbed t t₂ ∨
      r.complete = true ∧ s.Left request.arguments rootPath r true t t₂ := by
  have before := undisturbed_of_survey shares.usedBy tools scans
  rw [surveyed] at before
  have used := shares.usedBy
  have canonical := canonical_of_survey faithful feasible surveyed
  have apart₁ := apart.of_home before.home
  rcases left_of_saveAll apart₁ used.saves used.keeps canonical saved nofun with
    ⟨incomplete | ⟨stop, contrary⟩, undisturbed⟩ | ⟨complete, left⟩
  · exact Or.inl ⟨incomplete, before.trans undisturbed⟩
  · cases contrary
  · exact Or.inr ⟨complete, left.after before⟩

/-- What follows the store step writes a file of its own, if any. -/
theorem left_of_stored (lasts : Lasts s.storePath) :
    r.complete = false ∧ s.Undisturbed t (scanOn tools t request scans).tree ∨
      r.complete = true ∧
        s.Left request.arguments rootPath r true t (scanOn tools t request scans).tree := by
  obtain ⟨located, content, there⟩ := store_of_saveAll lasts shares.keeps saved
  have behind (home : t₂.home = t.home) :
      s.Undisturbed t₂ (scanOn tools t request scans).tree := by
    rw [scanOn_of_surveyed surveyed]
    rcases presented : present t₂ request.arguments r with stop | ⟨t₃, displays⟩
    · rw [conclude_of_unpresented saved presented, stopped_tree]
      exact .refl s t₂
    · rw [conclude_tree tools saved presented]
      exact undisturbed_of_present lasts (shares.of_home home) located there presented
  rcases left_of_saved faithful apart shares feasible surveyed saved with
    ⟨incomplete, stored⟩ | ⟨complete, stored⟩
  · exact Or.inl ⟨incomplete, stored.trans (behind stored.home)⟩
  · exact Or.inr ⟨complete, stored.then (behind stored.home)⟩

end

theorem Reflects.of_stored (h : s.Reflects start done t) (lasts : Lasts s.storePath)
    (shares : s.Shares t request)
    (left : r.complete = false ∧ s.Undisturbed t t' ∨
      r.complete = true ∧ s.Left request.arguments rootPath r true t t') :
    s.Reflects start (done ++ [(rootPath, r)]) t' := by
  rcases left with ⟨incomplete, undisturbed⟩ | ⟨complete, left⟩
  · exact (h.of_undisturbed undisturbed).of_incomplete incomplete
  · exact h.of_left lasts shares complete left

theorem Session.reflects (faithful : Faithful tools.frontEnd) (apart : s.Apart start)
    (lasts : Lasts s.storePath) (session : Session s tools start done t) :
    s.Reflects start done t := by
  induction session with
  | nil => exact .nil s start
  | stopped before shares feasible stops ih =>
      exact ih.of_undisturbed (undisturbed_of_stopped shares stops)
  | stored before shares feasible surveyed saved ih =>
      exact ih.of_stored lasts shares
        (left_of_stored faithful (apart.of_home ih.home) shares feasible surveyed saved lasts)
  | unshown before shares feasible surveyed saved ih =>
      exact ih.of_stored lasts shares
        (left_of_saved faithful (apart.of_home ih.home) shares feasible surveyed saved)
  | elsewhere before others ih => exact ih.of_undisturbed others

/-- The file for baselines holds the last complete report, the store answers for each root with the
last complete report of that root, and no other command disturbs them. -/
theorem Session.last_complete (faithful : Faithful tools.frontEnd) (apart : s.Apart start)
    (lasts : Lasts s.storePath) (session : Session s tools start done t) :
    (match lastComplete? done with
      | some (rootPath, r) => Baseline.ofDocument (t.read s.basePath) = .ok (r.capture rootPath)
      | none => s.KeepsFile start t) ∧
    (∀ root, match lastComplete? (reportsOf root done) with
      | some (_, r) => latestIn t s.store root = .ok (some (r.capture root))
      | none => s.KeepsAnswer root start t) ∧
    ∀ request scans, s.Shares t request → Feasible t request scans →
      (∀ t₁ rootPath r, survey tools t request scans = (t₁, .ok (rootPath, r)) →
        r.complete = false ∧ ∃ t₂, saveAll t₁ request.arguments r rootPath = (t₂, .ok ())) →
      s.Undisturbed t (scanOn tools t request scans).tree := by
  have reflects := session.reflects faithful apart lasts
  refine ⟨reflects.file, reflects.store, fun request scans shares feasible unfinished => ?_⟩
  rcases surveyed : survey tools t request scans with ⟨t₁, stop | ⟨rootPath, r⟩⟩
  · exact undisturbed_of_stopped shares surveyed
  · obtain ⟨incomplete, t₂, saved⟩ := unfinished t₁ rootPath r surveyed
    rcases left_of_stored faithful (apart.of_home reflects.home) shares feasible surveyed
      saved lasts with ⟨-, undisturbed⟩ | ⟨complete, -⟩
    · exact undisturbed
    · rw [incomplete] at complete
      cases complete

/-- A command that exits without failure has stored a report, and its code tells whether that
report is complete. -/
theorem stored_of_exit {code : ExitCode} (ended : (scanOn tools t request scans).ending =
    .exit code) (unfailed : code ≠ .failure) :
    ∃ t₁ t₂ rootPath r, survey tools t request scans = (t₁, .ok (rootPath, r)) ∧
      saveAll t₁ request.arguments r rootPath = (t₂, .ok ()) ∧
      code = if r.complete then .success else .interrupted := by
  have stopped_ne {t : FileTree} {notes : List String} {stop : Stop} :
      (Outcome.stopped t notes stop).ending ≠ .exit code := by
    intro same
    cases stop with
    | reported message => exact unfailed (Ending.exit.inj same).symm
    | aborted a => cases same
  rcases surveyed : survey tools t request scans with ⟨t₁, stop | ⟨rootPath, r⟩⟩
  · rw [scanOn_of_stopped surveyed] at ended
    exact absurd ended stopped_ne
  rw [scanOn_of_surveyed surveyed] at ended
  rcases saved : saveAll t₁ request.arguments r rootPath with ⟨t₂, stop | ⟨⟩⟩
  · rw [conclude_of_unsaved saved] at ended
    exact absurd ended stopped_ne
  refine ⟨t₁, t₂, rootPath, r, rfl, saved, ?_⟩
  rcases presented : present t₂ request.arguments r with stop | ⟨t₃, displays⟩
  · rw [conclude_of_unpresented saved presented] at ended
    exact absurd ended stopped_ne
  · rcases conclude_of_presented tools saved presented with
      ⟨-, same⟩ | ⟨fault, -, same⟩
    · rw [same] at ended
      exact (Ending.exit.inj ended).symm
    · rw [same] at ended
      cases ended

/-- The build of a scan whose end is asked for before any of its units is done. -/
def cutOff (setup : Setup) : Except BuildError Build :=
  Build.ofHarvest setup.units.length { complete := setup.units.isEmpty }

theorem feasible_cutOff : Feasible t request (scansOf cutOff) := by
  refine feasible_scansOf fun setup => ?_
  rcases none : setup.units with _ | ⟨u, rest⟩
  · have made : cutOff setup = Build.ofUnits setup.engine.config [] false := by
      simp [cutOff, none, Build.ofUnits, Build.overdraws, Build.inOrder, Harvest.ofUnits]
    rw [made]
    exact .undisturbed (Build.ofUnits_outcome _ _ _)
  · have waits : (Pool.submitted (u :: rest).length).pending ≠ [] := by
      simp [Pool.submitted]
    have run := Pool.Run.single
      (.request (w := .ofConfig setup.engine.config (u :: rest)) (.submitted (u :: rest).length))
      |>.append (.single (.abort _ [] rfl waits rfl (List.forall_mem_nil _)))
    refine .disturbed run ?_
    simp [cutOff, none, Pool.result?, Pool.setPhase, Pool.harvest, Pool.collect, Pool.submitted]

theorem Session.followed {code : ExitCode} (session : Session s tools start done t)
    (shares : s.Shares t request) (feasible : Feasible t request scans)
    (ended : (scanOn tools t request scans).ending = .exit code) (unfailed : code ≠ .failure)
    (root : (survey tools t request scans).2.toOption.map (·.1) = some rootPath) :
    ∃ r, code = (if ScanReport.complete r then .success else .interrupted) ∧
      Session s tools start (done ++ [(rootPath, r)]) (scanOn tools t request scans).tree := by
  obtain ⟨t₁, t₂, rootPath', r, surveyed, saved, told⟩ := stored_of_exit ended unfailed
  rw [surveyed] at root
  obtain rfl : rootPath' = rootPath := Option.some.inj root
  exact ⟨r, told, .stored session shares feasible surveyed saved⟩

def sessionFiles : SharedFiles := ⟨"base.json", "runs.db"⟩

def sessionArguments : List String := sessionFiles.scanArguments []

def sessionTree : FileTree where
  entries :=
    [(["units.json"], .file (bytesOf
      "\x7b\"units\": [\x7b\"path\": \"A.java\", \"error\": \"broken\"\x7d]\x7d"))]

theorem sessionFiles_shared (t : FileTree)
    (asked : ScanRequest.ofArguments? sessionArguments = some request) :
    sessionFiles.Shares t request := by
  obtain ⟨saves, keeps, reference, output⟩ :
      given? request.arguments.saveBaseline = some "base.json" ∧
        given? request.arguments.store = some "runs.db" ∧
        request.arguments.reference = none ∧ given? request.arguments.output = none :=
    names_of_arguments asked (by decide +kernel)
  refine ⟨saves, keeps, fun path compared => ?_, fun path format given => ?_⟩
  · rw [reference] at compared
    cases compared
  · rw [output] at given
    cases given

/-- A session of a complete scan and an interrupted one of the same document: both files reflect the
first. -/
theorem Session.last_complete_sample :
    ∃ t root r r', ScanReport.complete r = true ∧ ScanReport.complete r' = false ∧
      Session sessionFiles .standard sessionTree [(root, r), (root, r')] t ∧
      Baseline.ofDocument (t.read sessionFiles.basePath) = .ok (r.capture root) ∧
      latestIn t sessionFiles.store root = .ok (some (r.capture root)) := by
  obtain ⟨request, asked⟩ : ∃ request, ScanRequest.ofArguments? sessionArguments = some request :=
    Option.isSome_iff_exists.mp (by decide +kernel)
  have ends : ∀ request ∈ ScanRequest.ofArguments? sessionArguments,
      let first := scanOn .standard sessionTree request (scansOf leftAlone)
      first.ending = .exit .success ∧
        (scanOn .standard first.tree request (scansOf cutOff)).ending = .exit .interrupted ∧
        (survey .standard sessionTree request (scansOf leftAlone)).2.toOption.map (·.1) =
          some "/units.json" ∧
        (survey .standard first.tree request (scansOf cutOff)).2.toOption.map (·.1) =
          some "/units.json" := by
    decide +kernel
  obtain ⟨succeeds, stops, root, root'⟩ := ends request asked
  obtain ⟨r, told, session⟩ := Session.nil.followed (sessionFiles_shared _ asked)
    feasible_leftAlone succeeds nofun root
  obtain ⟨r', told', session'⟩ := session.followed (sessionFiles_shared _ asked)
    feasible_cutOff stops nofun root'
  have complete : r.complete = true := by
    by_contra unfinished
    rw [if_neg unfinished] at told
    cases told
  have incomplete : r'.complete = false := by
    by_contra finished
    rw [if_pos (by simpa using finished)] at told'
    cases told'
  have apart : sessionFiles.Apart sessionTree := by
    unfold Apart
    decide +kernel
  obtain ⟨file, store, -⟩ := session'.last_complete faithful_ofDocument apart (by decide +kernel)
  have last :
      lastComplete? [("/units.json", r), ("/units.json", r')] = some ("/units.json", r) := by
    simp [lastComplete?, complete, incomplete]
  have answer := store "/units.json"
  rw [show reportsOf "/units.json" _ = [("/units.json", r), ("/units.json", r')] from rfl] at answer
  simp only [List.nil_append, List.singleton_append, last] at file answer
  exact ⟨_, _, r, r', complete, incomplete, session', file, answer⟩

theorem latestIn_of_file {store root : String} {b : Baseline}
    (there : (t.entry? (t.placeOf (.ofText store)) matches some (.file _)) = true) :
    latestIn t store root ≠ .ok (some b) := by
  intro answer
  by_cases lasts : Lasts (.ofText store)
  · obtain ⟨-, content, holds, loaded⟩ := (latestIn_eq_ok lasts).mp answer
    rcases found : t.entry? (t.placeOf (.ofText store)) with _ | _ | (_ | _) | _
    all_goals
      rw [found] at there holds
      cases there
    all_goals
      obtain rfl := Option.some.inj holds
      cases loaded
  · rw [latestIn_of_transient lasts] at answer
    cases answer

/-- A complete report that is shown in the place of the store, or kept in a transient store, is no
answer of the store; an incomplete report is in the file for baselines where the report is shown
there, where that file is the store as well, and where it is the store to compare with. -/
theorem store_or_file_named_twice :
    (∀ root b,
      let o := run .standard sampleTree
        (sessionFiles.scanArguments ["--format", "json", "--output", "runs.db"])
      o.ending = .exit .success ∧ latestIn o.tree "runs.db" root ≠ .ok (some b)) ∧
    (∀ root b,
      let o := run .standard sampleTree (scanArguments ⟨"base.json", ":memory:"⟩ [])
      o.ending = .exit .success ∧ latestIn o.tree ":memory:" root ≠ .ok (some b)) ∧
    MakesFile interrupting
      (sessionFiles.scanArguments ["--format", "json", "--output", "base.json"]) .interrupted ∧
    MakesFile interrupting (scanArguments ⟨"base.json", "base.json"⟩ []) .interrupted ∧
    MakesFile interrupting (sessionFiles.scanArguments ["--baseline-db", "base.json"])
      .interrupted := by
  refine ⟨fun root b => ⟨by decide +kernel, latestIn_of_file (by decide +kernel)⟩,
    fun root b => ⟨by decide +kernel, ?_⟩, by decide +kernel⟩
  rw [latestIn_of_transient (by decide +kernel)]
  exact nofun

end SharedFiles

end TacticalDesign
