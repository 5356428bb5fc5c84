import TacticalDesign.Proofs.Command.Causes
import TacticalDesign.Proofs.Files.Places
/-!
# How commands end

A command whose steps all succeed exits with its report. Where a step fails, the command shows
nothing, leaves one more note and exits, unless the failure is one of a few that get past it:
`Escapes` lists what they are due to.
-/

namespace TacticalDesign

/-! ## Characters of paths -/

theorem Text.mem_of_mem_splitAtChar {sep c : Char} {text piece : List Char}
    (hp : piece ∈ splitAtChar sep text) (hc : c ∈ piece) : c ∈ text := by
  induction text generalizing piece with
  | nil =>
      obtain rfl := List.mem_singleton.mp hp
      cases hc
  | cons first rest ih =>
      rw [splitAtChar] at hp
      split at hp
      · rcases List.mem_cons.mp hp with rfl | hp
        · cases hc
        · exact List.mem_cons_of_mem first (ih hp hc)
      split at hp
      · obtain rfl := List.mem_singleton.mp hp
        exact List.mem_singleton.mp hc ▸ List.mem_cons_self
      · rename_i next others found
        rcases List.mem_cons.mp hp with rfl | hp
        · rcases List.mem_cons.mp hc with rfl | hc
          · exact List.mem_cons_self
          · exact List.mem_cons_of_mem first (ih (found ▸ List.mem_cons_self) hc)
        · exact List.mem_cons_of_mem first (ih (found ▸ List.mem_cons_of_mem next hp) hc)

theorem mem_of_mem_intercalate {α : Type} {sep : List α} {pieces : List (List α)} {a : α}
    (h : a ∈ sep.intercalate pieces) : a ∈ sep ∨ ∃ piece ∈ pieces, a ∈ piece := by
  induction pieces with
  | nil => cases h
  | cons piece rest ih =>
      cases rest with
      | nil =>
          rw [List.intercalate_singleton] at h
          exact Or.inr ⟨piece, List.mem_cons_self, h⟩
      | cons next others =>
          rw [List.intercalate_cons_cons, List.mem_append, List.mem_append] at h
          rcases h with (h | h) | h
          · exact Or.inr ⟨piece, List.mem_cons_self, h⟩
          · exact Or.inl h
          · rcases ih h with h | ⟨q, hq, h⟩
            · exact Or.inl h
            · exact Or.inr ⟨q, List.mem_cons_of_mem piece hq, h⟩

namespace Path

theorem null_of_mem_text {p : Path} (root : '\x00' ∉ p.root.toList)
    (h : '\x00' ∈ p.text.toList) : ∃ name ∈ p.names, '\x00' ∈ name.toList := by
  unfold text at h
  split at h
  · exact absurd h (by decide)
  rw [String.toList_append, List.mem_append, String.toList_intercalate] at h
  rcases h with h | h
  · exact absurd h root
  rcases mem_of_mem_intercalate h with h | ⟨piece, hp, h⟩
  · exact absurd h (by decide)
  · obtain ⟨name, named, rfl⟩ := List.mem_map.mp hp
    exact ⟨name, named, h⟩

theorem no_null_in_root (text : String) : '\x00' ∉ (ofText text).root.toList := by
  show '\x00' ∉ (rootOf text.toList).toList
  unfold rootOf
  split <;> decide

theorem null_of_mem_names {text name : String} (named : name ∈ (ofText text).names)
    (h : '\x00' ∈ name.toList) : '\x00' ∈ text.toList := by
  obtain ⟨piece, cut, rfl⟩ := List.mem_map.mp (List.mem_filter.mp named).1
  rw [String.toList_ofList] at h
  exact Text.mem_of_mem_splitAtChar cut h

end Path

namespace FileTree

theorem null_of_unusable {p : Path} (h : unusable? p = some .nullInPath) :
    '\x00' ∈ p.text.toList := by
  unfold unusable? at h
  split at h
  · rename_i found
    exact List.contains_iff_mem.mp found
  · split at h <;> cases h

theorem step_ne_null {t : FileTree} {place : List String} {name : String} :
    t.step place name ≠ .error .nullInPath := by
  unfold step
  repeat' split
  all_goals exact nofun

theorem follow_ne_null {t : FileTree} {first names : List String} :
    t.follow first names ≠ .error .nullInPath := by
  induction names generalizing first with
  | nil => exact nofun
  | cons name rest ih =>
      rw [follow, List.foldlM_cons]
      intro h
      rcases bind_eq_error.mp h with failed | ⟨next, -, failed⟩
      · exact step_ne_null failed
      · exact ih failed

theorem toFileError_eq_null {path : String} {e : LostWay} (h : e.toFileError path = .nullInPath) :
    e = .nullInPath := by
  cases e <;> first | rfl | cases h

theorem makeDirectories_ne_null {t : FileTree} {path : String} {place names : List String} :
    t.makeDirectories path place names ≠ .error .nullInPath := by
  induction names generalizing t place with
  | nil => exact nofun
  | cons name rest ih =>
      rw [makeDirectories]
      intro h
      rcases stepped : t.step place name with e | next
      · rw [stepped] at h
        rw [toFileError_eq_null (Except.error.inj h)] at stepped
        exact step_ne_null stepped
      rw [stepped] at h
      dsimp only at h
      have occupied : (if rest = [] then FileError.alreadyThere path else .notADirectory path) ≠
          .nullInPath := by
        intro null
        split at null <;> cases null
      rcases found : t.entry? next with _ | _ | _ | _
      all_goals rw [found] at h
      · exact ih h
      · exact ih h
      · exact occupied (Except.error.inj h)
      · exact occupied (Except.error.inj h)

theorem null_of_writeFile {t : FileTree} {text : String} {bytes : List UInt8}
    (h : t.writeFile (.ofText text) bytes = .error .nullInPath) : '\x00' ∈ text.toList := by
  have of_parts {names : List String} (part : ∀ name ∈ names, name ∈ (Path.ofText text).names)
      (h : unusable? ⟨(Path.ofText text).root, names⟩ = some .nullInPath) :
      '\x00' ∈ text.toList := by
    have null_in_text := null_of_unusable h
    obtain ⟨name, named, null⟩ :=
      Path.null_of_mem_text (p := ⟨_, names⟩) (Path.no_null_in_root text) null_in_text
    exact Path.null_of_mem_names (part name named) null
  rw [writeFile] at h
  rcases bind_eq_error.mp h with failed | ⟨prepared, -, failed⟩
  · unfold makeDirectory at failed
    split at failed
    · rename_i e unusable
      rw [toFileError_eq_null (Except.error.inj failed)] at unusable
      exact of_parts (fun name hn => List.mem_of_mem_dropLast hn) unusable
    · exact absurd failed makeDirectories_ne_null
  · unfold write at failed
    split at failed
    · rename_i e lost
      obtain rfl := Except.error.inj failed
      unfold locate at lost
      split at lost
      · rename_i e unusable
        rw [toFileError_eq_null (Except.error.inj lost)] at unusable
        exact of_parts (fun name hn => hn) unusable
      split at lost
      · cases lost
      · rename_i e followed
        rw [toFileError_eq_null (Except.error.inj lost)] at followed
        exact absurd followed follow_ne_null
    · split at failed <;> cases failed

end FileTree

namespace Command

variable {tools : Tools} {limits : Limits} {t : FileTree} {request : ScanRequest} {a : Abort}

/-! ## What gets past a command -/

def documentsOf (request : ScanRequest) : List String :=
  [given? request.arguments.config, given? request.arguments.rules,
    match request.source with
      | .declarations path => some path
      | .project _ => none,
    match request.arguments.reference with
      | some (.file path) => some path
      | _ => none].filterMap id

/-- What the failures that no step turns into a message are due to. -/
inductive Escapes (tools : Tools) (t : FileTree) (request : ScanRequest) : Abort → Prop where
  | setting {path key : String} {members : List (String × Json)} {n : Number}
      (given : given? request.arguments.config = some path)
      (holds : Document.read (t.read (.ofText path)) = .ok (.object members))
      (set : (key, .number n) ∈ members) (large : n.toFloat? = none) :
      Escapes tools t request .numberTooLarge
  | weight {path id : String} {document : Json} {o : RuleRegistry.Overrides} {n : Number}
      (given : given? request.arguments.rules = some path)
      (holds : Document.read (t.read (.ofText path)) = .ok document)
      (overrides : RuleRegistry.Overrides.ofJson document = .ok o)
      (set : Json.lookup id o.weights = some (.number n)) (large : n.toFloat? = none) :
      Escapes tools t request .numberTooLarge
  | wait {config : ScanConfig} (configured : configOf tools.limits t request.arguments = .ok config)
      (long : Build.longestWait < config.pollInterval) :
      Escapes tools t request .waitTooLong
  | document {path : String} (named : path ∈ documentsOf request)
      (deep : tools.limits.documents < Document.depth (t.read (.ofText path))) :
      Escapes tools t request .nesting
  | stored {path rootPath text : String}
      (compared : request.arguments.reference = some (.store path))
      (holds : storedText? t path rootPath = some text)
      (deep : tools.limits.stored < Json.depth text.toList) :
      Escapes tools t request .nesting
  | directories {path : String} {place : List String} (source : request.source = .project path)
      (located : t.locate (.ofText path) = .ok place)
      (deep : tools.limits.directories < t.depthBelow place) :
      Escapes tools t request .nesting
  | emptyPath (source : request.source = .project "") : Escapes tools t request .noSource
  | pattern {path line message : String} {place lines : List String}
      (source : request.source = .project path)
      (located : t.locate (.ofText path) = .ok place)
      (ignored : Project.ignoreLines t (.ofText path) (Project.ignoreFiles (t.below place)) =
        .ok lines)
      (among : line ∈ lines)
      (refused : tools.ignoring.ofLine line = .error (.unforeseen message)) :
      Escapes tools t request (.pattern message)
  | referenceStore {path : String} (compared : request.arguments.reference = some (.store path))
      (closed : t.openStore (.ofText path) = .ok none) :
      Escapes tools t request .storeUnopenable
  | store {scans : Scans} {t₁ t₂ : FileTree} {rootPath path : String}
      {r : ScanReport} (surveyed : survey tools t request scans = (t₁, .ok (rootPath, r)))
      (saved : saveBaseline t₁ request.arguments r rootPath = .ok t₂)
      (given : given? request.arguments.store = some path)
      (closed : t₂.openStore (.ofText path) = .ok none) :
      Escapes tools t request .storeUnopenable
  | comparison {rootPath message : String} (wrong : Mistyped t request rootPath) :
      Escapes tools t request (.comparison message)
  | nullInOutput {path : String} (format : request.arguments.format = .json)
      (given : given? request.arguments.output = some path) (null : '\x00' ∈ path.toList) :
      Escapes tools t request (.unusablePath .nullInPath)

/-! ## Setting up -/

theorem stopWith_reported {ε α : Type} {message : ε → String} {x : Except ε α} :
    stopWith (fun e => .reported (message e)) x ≠ .error (.aborted a) := by
  rw [Ne, stopWith_eq_error]
  rintro ⟨e, -, contrary⟩
  cases contrary

theorem under_eq_aborted {words : String} {stop : Stop} (h : stop.under words = .aborted a) :
    stop = .aborted a := by
  cases stop with
  | reported message => cases h
  | aborted a => exact h

theorem ofConfigError_eq_aborted {e : ConfigError} (h : ofConfigError e = .aborted a) :
    e = .tooLarge ∧ a = .numberTooLarge := by
  cases e <;> cases h
  exact ⟨rfl, rfl⟩

theorem within_eq_aborted {limit depth : Nat} (h : within limit depth = .error (.aborted a)) :
    a = .nesting ∧ limit < depth := by
  unfold within at h
  split at h
  · exact ⟨(Stop.aborted.inj (Except.error.inj h)).symm, ‹_›⟩
  · cases h

theorem escapes_of_documentAt {path : String} (named : path ∈ documentsOf request)
    (h : documentAt tools.limits t path = .error (.aborted a)) : Escapes tools t request a := by
  rcases bind_eq_error.mp h with failed | ⟨-, -, failed⟩
  · obtain ⟨rfl, deep⟩ := within_eq_aborted failed
    exact .document named deep
  · cases failed

theorem documentAt_eq_ok {path : String} {content : Except FileError (List UInt8)}
    (h : documentAt limits t path = .ok content) : content = t.read (.ofText path) := by
  obtain ⟨-, -, h⟩ := bind_eq_ok.mp h
  exact (Except.ok.inj h).symm

theorem escapes_of_configOf (h : configOf tools.limits t request.arguments = .error (.aborted a)) :
    Escapes tools t request a := by
  have check_ne (c : ScanConfig) : stopWith ofConfigError c.check ≠ .error (.aborted a) := by
    rw [Ne, stopWith_eq_error]
    rintro ⟨e, refused, aborted⟩
    obtain ⟨rfl, rfl⟩ := ofConfigError_eq_aborted aborted
    exact ScanConfig.check_ne_tooLarge c refused
  unfold configOf at h
  dsimp only at h
  split at h
  · rename_i path given
    rcases bind_eq_error.mp h with failed | ⟨content, found, h⟩
    · exact escapes_of_documentAt (by simp [documentsOf, given]) failed
    obtain rfl := documentAt_eq_ok found
    rcases bind_eq_error.mp h with failed | ⟨config, -, failed⟩
    · obtain ⟨e, refused, aborted⟩ := stopWith_eq_error.mp failed
      unfold ScanConfig.ofDocument at refused
      split at refused
      · obtain rfl := Except.error.inj refused
        cases aborted
      · rename_i members holds
        split at refused
        · cases refused
        · rename_i e content
          obtain rfl := Except.error.inj refused
          obtain ⟨rfl, rfl⟩ := ofConfigError_eq_aborted aborted
          obtain ⟨key, n, set, large⟩ := ScanConfig.tooLarge_of_ofOverrides content
          exact .setting given holds set large
      · obtain rfl := Except.error.inj refused
        cases aborted
    · split at failed
      · cases failed
      · exact absurd failed (check_ne _)
  · rcases bind_eq_error.mp h with failed | ⟨config, -, failed⟩
    · cases failed
    · split at failed
      · cases failed
      · exact absurd failed (check_ne _)

theorem ofOverridesDocumentError_eq_aborted {e : OverridesDocumentError}
    (h : ofOverridesDocumentError e = .aborted a) :
    ∃ e' : RuleError, e = .content e' ∧ e'.Mute ∧ (e' = .tooLarge → a = .numberTooLarge) := by
  unfold ofOverridesDocumentError at h
  split at h <;> cases h
  · exact ⟨_, rfl, .tooLarge, fun _ => rfl⟩
  · exact ⟨_, rfl, .escaped _, nofun⟩

theorem not_mute_of_ofJson {document : Json} {e : RuleError}
    (h : RuleRegistry.Overrides.ofJson document = .error e) : ¬e.Mute := by
  unfold RuleRegistry.Overrides.ofJson at h
  split at h
  · dsimp only at h
    split at h
    · cases h
      exact nofun
    split at h
    · split at h
      · split at h
        · cases h
          exact nofun
        · split at h <;> cases h
          exact nofun
      · cases h
        exact nofun
    · cases h
      exact nofun
  · cases h
    exact nofun

theorem escapes_of_registryOf
    (h : registryOf tools.limits t request.arguments = .error (.aborted a)) :
    Escapes tools t request a := by
  unfold registryOf at h
  split at h
  · rename_i path given
    rcases bind_eq_error.mp h with failed | ⟨content, found, h⟩
    · exact escapes_of_documentAt (by simp [documentsOf, given]) failed
    obtain rfl := documentAt_eq_ok found
    obtain ⟨e, refused, aborted⟩ := stopWith_eq_error.mp h
    obtain ⟨e, rfl, mute, ending⟩ := ofOverridesDocumentError_eq_aborted aborted
    unfold RuleRegistry.withDocument at refused
    split at refused
    · cases refused
    rename_i document holds
    split at refused
    · rename_i content
      obtain rfl := OverridesDocumentError.content.inj (Except.error.inj refused)
      exact absurd mute (not_mute_of_ofJson content)
    rename_i o overrides
    split at refused
    · rename_i content
      obtain rfl := OverridesDocumentError.content.inj (Except.error.inj refused)
      obtain ⟨rfl, id, n, set, large⟩ := RuleRegistry.tooLarge_of_withOverrides content mute
      obtain rfl := ending rfl
      exact .weight given holds overrides set large
    · cases refused
  · cases h

theorem ofProjectError_eq_aborted {e : ProjectError} (h : ofProjectError e = .aborted a) :
    ∃ message, e = .pattern (.unforeseen message) ∧ a = .pattern message := by
  unfold ofProjectError at h
  split at h <;> cases h
  exact ⟨_, rfl, rfl⟩

theorem existing_ne_aborted {path : Path} : existing t path ≠ .error (.aborted a) := by
  unfold existing
  split <;> exact nofun

theorem existing_locates {path : Path} {place : List String} {entry : Entry}
    (h : existing t path = .ok (place, entry)) : t.locate path = .ok place := by
  unfold existing FileTree.lookup at h
  cases located : t.locate path with
  | ok place' =>
      rw [located] at h
      rcases found : t.entry? place' with _ | entry'
      · simp only [found, Option.map_none] at h
        cases h
      · simp only [found, Option.map_some] at h
        obtain ⟨rfl, -⟩ := Prod.mk.inj (Except.ok.inj h)
        rfl
  | error e =>
      rw [located] at h
      cases e <;> cases h

theorem line_of_patternsOf {m : IgnoreMatcher} {lines : List String} {e : PatternError}
    (h : m.patternsOf lines = .error e) : ∃ line ∈ lines, m.ofLine line = .error e := by
  rcases bind_eq_error.mp h with failed | ⟨patterns, -, failed⟩
  · exact exists_of_mapM_error failed
  · cases failed

theorem escapes_of_discover {path : String} {place : List String}
    (source : request.source = .project path) (located : t.locate (.ofText path) = .ok place)
    (h : stopWith ofProjectError (Project.discover tools.ignoring t (.ofText path)) =
      .error (.aborted a)) :
    Escapes tools t request a := by
  obtain ⟨e, refused, aborted⟩ := stopWith_eq_error.mp h
  obtain ⟨message, rfl, rfl⟩ := ofProjectError_eq_aborted aborted
  unfold Project.discover at refused
  simp only [located] at refused
  cases ignored : Project.ignoreLines t (.ofText path) (Project.ignoreFiles (t.below place)) with
  | ok lines =>
      simp only [ignored, pure_bind] at refused
      cases matched : tools.ignoring.patternsOf lines with
      | ok patterns =>
          simp only [matched] at refused
          cases refused
      | error e =>
          rw [matched] at refused
          obtain rfl := ProjectError.pattern.inj (Except.error.inj refused)
          obtain ⟨line, among, refused⟩ := line_of_patternsOf matched
          exact .pattern source located ignored among refused
  | error e =>
      simp only [ignored] at refused
      cases refused

theorem escapes_of_unitsOf (h : unitsOf tools t request.source = .error (.aborted a)) :
    Escapes tools t request a := by
  cases source : request.source with
  | declarations path =>
      rw [source] at h
      rcases bind_eq_error.mp h with failed | ⟨⟨place, entry⟩, -, h⟩
      · exact absurd failed existing_ne_aborted
      rcases bind_eq_error.mp h with failed | ⟨content, -, h⟩
      · exact escapes_of_documentAt (by simp [documentsOf, source]) failed
      rcases bind_eq_error.mp h with failed | ⟨units, -, failed⟩
      · exact absurd failed stopWith_reported
      · cases failed
  | project path =>
      rw [source] at h
      unfold unitsOf at h
      split at h
      · rename_i empty
        obtain rfl := Stop.aborted.inj (Except.error.inj h)
        exact .emptyPath (source.trans empty)
      · rename_i path' _ same
        obtain rfl := Source.project.inj same
        rcases bind_eq_error.mp h with failed | ⟨⟨place, entry⟩, there, h⟩
        · exact absurd failed existing_ne_aborted
        have located := existing_locates there
        dsimp only at h
        split at h
        · rcases bind_eq_error.mp h with failed | ⟨-, -, h⟩
          · obtain ⟨rfl, deep⟩ := within_eq_aborted failed
            exact .directories source located deep
          rcases bind_eq_error.mp h with failed | ⟨units, -, failed⟩
          · exact escapes_of_discover source located failed
          · cases failed
        · cases h
      · rename_i contrary
        cases contrary

theorem escapes_of_setup (h : Setup.of tools t request = .error (.aborted a)) :
    Escapes tools t request a := by
  unfold Setup.of at h
  rcases bind_eq_error.mp h with failed | ⟨aliases, -, h⟩
  · exact absurd failed stopWith_reported
  rcases bind_eq_error.mp h with failed | ⟨config, -, h⟩
  · exact escapes_of_configOf failed
  rcases bind_eq_error.mp h with failed | ⟨registry, -, h⟩
  · exact escapes_of_registryOf failed
  rcases bind_eq_error.mp h with failed | ⟨⟨rootPath, units⟩, -, failed⟩
  · exact escapes_of_unitsOf failed
  · cases failed

/-! ## Scanning and storing -/

theorem withStore_eq_aborted {α : Type} {path : String}
    {use : StoreFile → StoreFile × Except StoreError α}
    (h : (withStore t path use).2 = .error (.aborted a)) :
    t.openStore (.ofText path) = .ok none ∧ a = .storeUnopenable := by
  unfold withStore at h
  split at h
  · cases h
  · rename_i closed
    exact ⟨closed, (Stop.aborted.inj (Except.error.inj h)).symm⟩
  · exact absurd h stopWith_reported

theorem escapes_of_baselineOf {t' : FileTree} {rootPath : String}
    (h : baselineOf tools.limits t request.arguments.reference rootPath =
      (t', .error (.aborted a))) :
    Escapes tools t request a := by
  unfold baselineOf at h
  split at h
  · cases h
  · cases h
  · cases h
  · rename_i path _ compared
    rcases bind_eq_error.mp (Prod.mk.inj h).2 with failed | ⟨content, -, failed⟩
    · exact escapes_of_documentAt (by simp [documentsOf, compared]) failed
    · exact absurd failed stopWith_reported
  · rename_i path _ compared
    rcases bind_eq_error.mp (Prod.mk.inj h).2 with failed | ⟨-, -, failed⟩
    · obtain ⟨rfl, deep⟩ := within_eq_aborted failed
      cases holds : storedText? t path rootPath with
      | none =>
          rw [holds] at deep
          exact absurd deep (Nat.not_lt_zero _)
      | some text =>
          rw [holds] at deep
          exact .stored compared holds deep
    · have failed : (withStore t path (·.loadLatest rootPath)).2 = .error (.aborted a) := failed
      obtain ⟨closed, rfl⟩ := withStore_eq_aborted failed
      exact .referenceStore compared closed

theorem escapes_of_mayScan {setup : Setup} {baseline : Option Baseline}
    (settled : Setup.of tools t request = .ok setup)
    (h : MayScan setup baseline (Mistyped t request setup.rootPath) (.error (.aborted a))) :
    Escapes tools t request a := by
  obtain ⟨configured, ruled, -⟩ := setup_ok settled
  generalize stopped : Except.error (Stop.aborted a) = x at h
  cases h with
  | reported came =>
      obtain ⟨e, failed, aborted⟩ := stopWith_eq_error.mp stopped.symm
      have aborted := under_eq_aborted aborted
      rcases ScanEngine.stop_of_runOn (catalog_of_registryOf ruled) came failed
        with told | ⟨waits, long⟩
      · rw [told] at aborted
        cases aborted
      · rw [waits] at aborted
        obtain rfl := Stop.aborted.inj aborted
        exact .wait configured long
  | compared wrong came complete reported compares =>
      cases compares with
      | compared changes renameHints unverifiedSymbols => cases stopped
      | refused message => cases stopped
      | failed message =>
          obtain rfl := Stop.aborted.inj (Except.error.inj stopped)
          exact .comparison wrong

theorem escapes_of_survey {scans : Scans} (feasible : Feasible t request scans) {t' : FileTree}
    (h : survey tools t request scans = (t', .error (.aborted a))) : Escapes tools t request a := by
  unfold survey prepare at h
  cases settled : Setup.of tools t request with
  | error stop =>
      rw [settled] at h
      obtain rfl := Except.error.inj (Prod.mk.inj h).2
      exact escapes_of_setup settled
  | ok setup =>
      rw [settled] at h
      rcases compared : baselineOf tools.limits t request.arguments.reference setup.rootPath with
        ⟨t₁, answer⟩
      simp only [compared] at h
      cases answer with
      | error stop =>
          obtain rfl := Except.error.inj (Prod.mk.inj h).2
          exact escapes_of_baselineOf compared
      | ok baseline =>
          simp only at h
          split at h
          · rename_i stop failed
            obtain rfl := Except.error.inj (Prod.mk.inj h).2
            exact escapes_of_mayScan settled (failed ▸ feasible setup baseline)
          · cases h

theorem escapes_of_saveAll {scans : Scans} {t₁ t' : FileTree} {rootPath : String} {r : ScanReport}
    (surveyed : survey tools t request scans = (t₁, .ok (rootPath, r)))
    (h : saveAll t₁ request.arguments r rootPath = (t', .error (.aborted a))) :
    Escapes tools t request a := by
  unfold saveAll at h
  cases saved : saveBaseline t₁ request.arguments r rootPath with
  | error stop =>
      rw [saved] at h
      obtain rfl := Except.error.inj (Prod.mk.inj h).2
      unfold saveBaseline at saved
      split at saved
      · cases saved
      · split at saved
        · exact absurd saved stopWith_reported
        · cases saved
  | ok t₂ =>
      rw [saved] at h
      unfold saveRun at h
      simp only at h
      split at h
      · cases h
      · rename_i path given
        rcases kept : withStore t₂ path (·.saveRun rootPath r) with ⟨t₃, answer⟩
        rw [kept] at h
        cases answer with
        | ok summary => cases h
        | error stop =>
            obtain rfl := Except.error.inj (Prod.mk.inj h).2
            obtain ⟨closed, rfl⟩ := withStore_eq_aborted (congrArg Prod.snd kept)
            exact .store surveyed saved given closed

theorem escapes_of_present {r : ScanReport} {t₁ : FileTree}
    (h : present t₁ request.arguments r = .error (.aborted a)) :
    Escapes tools t request a := by
  unfold present at h
  split at h
  · cases h
  · cases h
  · rename_i path format given
    split at h
    · cases h
    · rename_i lost
      obtain rfl := Stop.aborted.inj (Except.error.inj h)
      exact .nullInOutput format given (FileTree.null_of_writeFile lost)
    · cases h

/-! ## Endings -/

/-- A failure that is told: a last note, a code, and nothing shown. -/
def Outcome.Told (o : Outcome) : Prop :=
  ∃ before message, o.shown = [] ∧ o.notes = before ++ [message] ∧ o.ending = .exit .failure

theorem told_or_escapes {o : Outcome} {notes : List String} {stop : Stop} {t' : FileTree}
    {otherwise : Prop} (stopped : o = .stopped t' notes stop)
    (escapes : ∀ a, stop = .aborted a → Escapes tools t request a) :
    o.Told ∨ (∃ a, o.shown = [] ∧ o.ending = .abort a ∧ Escapes tools t request a) ∨
      otherwise := by
  subst stopped
  cases stop with
  | reported message => exact Or.inl ⟨notes, message, rfl, rfl, rfl⟩
  | aborted a => exact Or.inr (Or.inl ⟨a, rfl, rfl, escapes a rfl⟩)

/-- Every command exits with what its steps came to or with a message for the step that failed,
unless the failure is one that gets past it: it meets one of the escapes, the end of the run is
asked for outside of its scan, or its report, which has been stored, cannot be shown. -/
theorem report_message_or_escape {arguments : List String} {o : Outcome}
    (ends : MayEnd tools t arguments o) :
    ScanRequest.ofArguments? arguments = none ∧ o = ⟨t, [], [], .exit .failure⟩ ∨
    ∃ request scans, ScanRequest.ofArguments? arguments = some request ∧
      Feasible t request scans ∧
      ((∃ t₁ t₂ t₃ rootPath r displays,
          survey tools t request scans = (t₁, .ok (rootPath, r)) ∧
          saveAll t₁ request.arguments r rootPath = (t₂, .ok ()) ∧
          present t₂ request.arguments r = .ok (t₃, displays) ∧
          ((∀ d ∈ displays, tools.faultOf? d = none) ∧
              o = ⟨t₃, displays, notesOn r, .exit (if r.complete then .success else .interrupted)⟩ ∨
            ∃ before d behind fault, displays = before ++ d :: behind ∧
              (∀ e ∈ before, tools.faultOf? e = none) ∧ tools.faultOf? d = some fault ∧
              o = ⟨t₃, before, notesOn r, .abort (.markup fault)⟩)) ∨
        o.Told ∨
        (∃ a, o.shown = [] ∧ o.ending = .abort a ∧ Escapes tools t request a) ∨
        CutShort tools t request scans o) := by
  cases ends with
  | refused unasked => exact Or.inl ⟨unasked, rfl⟩
  | @cut request scans o asked feasible short =>
      exact Or.inr ⟨request, scans, asked, feasible, Or.inr (Or.inr (Or.inr short))⟩
  | @scanned request scans asked feasible =>
      refine Or.inr ⟨request, scans, asked, feasible, ?_⟩
      rcases surveyed : survey tools t request scans with ⟨t₁, stop | ⟨rootPath, r⟩⟩
      · refine Or.inr (told_or_escapes (scanOn_of_stopped surveyed) fun a aborted => ?_)
        exact escapes_of_survey feasible (aborted ▸ surveyed)
      have concludes := scanOn_of_surveyed surveyed
      rcases kept : saveAll t₁ request.arguments r rootPath with ⟨t₂, stop | ⟨⟩⟩
      · refine Or.inr (told_or_escapes (concludes.trans (conclude_of_unsaved kept))
          fun a aborted => ?_)
        exact escapes_of_saveAll surveyed (under_eq_aborted aborted ▸ kept)
      rcases presented : present t₂ request.arguments r with stop | ⟨t₃, displays⟩
      · refine Or.inr (told_or_escapes (concludes.trans (conclude_of_unpresented kept presented))
          fun a aborted => ?_)
        exact escapes_of_present (aborted ▸ presented)
      refine Or.inl ⟨t₁, t₂, t₃, rootPath, r, displays, rfl, kept, presented, ?_⟩
      rw [concludes]
      rcases showAll_cases tools displays with
        ⟨sound, all⟩ | ⟨before, d, behind, fault, split, sound, faulty, part⟩
      · rcases conclude_of_presented tools kept presented with
          ⟨-, same⟩ | ⟨fault, faulty, -⟩
        · rw [same, all]
          exact Or.inl ⟨sound, rfl⟩
        · rw [all] at faulty
          cases faulty
      · rcases conclude_of_presented tools kept presented with
          ⟨none, -⟩ | ⟨fault', found, same⟩
        · rw [part] at none
          cases none
        · rw [part] at found same
          obtain rfl := Option.some.inj found
          exact Or.inr ⟨before, d, behind, fault, split, sound, faulty, same⟩

def sampleTree : FileTree where
  entries :=
    [(["units.json"], .file (bytesOf "\x7b\"units\": []\x7d")), (["runs"], .directory)]

theorem escapes_directory_as_store :
    ∃ request, ScanRequest.ofArguments? ["scan", "--declarations", "units.json", "--db", "runs"] =
        some request ∧
      Escapes .standard sampleTree request .storeUnopenable := by
  have ended : (run .standard sampleTree
      ["scan", "--declarations", "units.json", "--db", "runs"]).ending =
      .abort .storeUnopenable := by decide +kernel
  rcases report_message_or_escape (mayEnd_run .standard sampleTree
      ["scan", "--declarations", "units.json", "--db", "runs"]) with
    ⟨-, refused⟩ | ⟨request, scans, asked, -, shows | told | ⟨a, -, aborted, escapes⟩ | short⟩
  · rw [refused] at ended
    cases ended
  · obtain ⟨t₁, t₂, t₃, rootPath, r, displays, -, -, -,
      ⟨-, same⟩ | ⟨before, d, behind, fault, -, -, -, same⟩⟩ := shows
    all_goals
      rw [same] at ended
      cases ended
  · obtain ⟨before, message, -, -, exits⟩ := told
    rw [exits] at ended
    cases ended
  · rw [aborted] at ended
    obtain rfl := Ending.abort.inj ended
    exact ⟨request, asked, escapes⟩
  · generalize run .standard sampleTree _ = o at ended short
    cases short <;> cases ended

/-- An empty path for the project ends a command without a code. -/
theorem no_code_for_empty_path :
    ¬∃ code, (run .standard sampleTree ["scan", "--path", ""]).ending = .exit code := by
  have ended : (run .standard sampleTree ["scan", "--path", ""]).ending =
      .abort .noSource := by decide +kernel
  rw [ended]
  exact nofun

end Command

end TacticalDesign
