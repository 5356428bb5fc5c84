import TacticalDesign.Command.Run
import TacticalDesign.Proofs.Pool.Outcome
import TacticalDesign.Proofs.Registry.Overrides
import TacticalDesign.Proofs.Store.Latest
/-!
# The stages of a command

A scan is set up, takes its baseline, builds, reports, stores and shows. While it builds, somebody
may ask for the end of the run; the build then comes to whatever the pool of workers has left when
its loop sees the request. Everything before and behind the build is as it is without a request.
-/

namespace TacticalDesign

/-- What a build may come to. A request for the end may fall into any moment of it. -/
inductive Build.MayCome (config : ScanConfig) (units : List SourceUnit) :
    Except BuildError Build → Prop where
  | undisturbed {x : Except BuildError Build} (outcome : Outcome config units false x) :
      MayCome config units x
  | disturbed {actions : List Pool.Action} {s : Pool} {x : Except BuildError Build}
      (run : Pool.Run (.ofConfig config units) (.submitted units.length) actions s)
      (gives : s.result? units.length = some x) : MayCome config units x

namespace Command

variable {tools : Tools} {t : FileTree} {request : ScanRequest}

/-! ## Setting up -/

theorem stopWith_eq_error {ε α : Type} {stop : ε → Stop} {x : Except ε α} {s : Stop} :
    stopWith stop x = .error s ↔ ∃ e, x = .error e ∧ stop e = s := by
  cases x <;> simp [stopWith]

theorem stopWith_eq_ok {ε α : Type} {stop : ε → Stop} {x : Except ε α} {b : α} :
    stopWith stop x = .ok b ↔ x = .ok b := by
  cases x <;> simp [stopWith]

theorem setup_ok {setup : Setup} (h : Setup.of tools t request = .ok setup) :
    configOf tools.limits t request.arguments = .ok setup.engine.config ∧
      registryOf tools.limits t request.arguments = .ok setup.engine.registry ∧
      unitsOf tools t request.source = .ok (setup.rootPath, setup.units) := by
  unfold Setup.of at h
  obtain ⟨aliases, -, h⟩ := bind_eq_ok.mp h
  obtain ⟨config, configured, h⟩ := bind_eq_ok.mp h
  obtain ⟨registry, ruled, h⟩ := bind_eq_ok.mp h
  obtain ⟨⟨rootPath, units⟩, found, h⟩ := bind_eq_ok.mp h
  obtain rfl := Except.ok.inj h
  exact ⟨configured, ruled, found⟩

theorem catalog_of_registryOf {limits : Limits} {registry : RuleRegistry}
    (h : registryOf limits t request.arguments = .ok registry) : registry.OfCatalog := by
  unfold registryOf at h
  split at h
  · rename_i path given
    obtain ⟨content, -, h⟩ := bind_eq_ok.mp h
    have made := stopWith_eq_ok.mp h
    unfold RuleRegistry.withDocument at made
    split at made
    · cases made
    split at made
    · cases made
    split at made
    · cases made
    · rename_i registry' overridden
      obtain rfl := Except.ok.inj made
      exact RuleRegistry.ofCatalog_standard.withOverrides overridden
  · obtain rfl := Except.ok.inj h
    exact RuleRegistry.ofCatalog_standard

/-! ## Stores -/

/-- A store that cannot be opened leaves the tree as it is; one that is opened is kept. -/
theorem withStore_cases {α : Type} (t : FileTree) (path : String)
    (use : StoreFile → StoreFile × Except StoreError α) :
    (∃ stop, withStore t path use = (t, .error stop) ∧
      (t.openStore (.ofText path) = .ok none → stop = .aborted .storeUnopenable)) ∨
    ∃ found, t.openStore (.ofText path) = .ok (some found) ∧
      withStore t path use = (t.keepStore found.place (use found.content).1,
        stopWith (fun e : StoreError => .reported e.message) (use found.content).2) := by
  unfold withStore
  rcases t.openStore (.ofText path) with e | (_ | found)
  · exact Or.inl ⟨_, rfl, nofun⟩
  · exact Or.inl ⟨_, rfl, fun _ => rfl⟩
  · exact Or.inr ⟨found, rfl, rfl⟩

/-! ## Scans -/

def referenceDocument? (t : FileTree) (reference : Option Reference) (rootPath : String) :
    Option Json :=
  match reference with
  | none => none
  | some (.file path) => (Document.read (t.read (.ofText path))).toOption
  | some (.store path) =>
    (storedText? t path rootPath).bind fun text => (Json.parse text.toList).toOption

/-- Whether the baseline to compare with holds values of other sorts than it is declared to. It may
be read all the same. -/
def Mistyped (t : FileTree) (request : ScanRequest) (rootPath : String) : Prop :=
  ∃ document, referenceDocument? t request.arguments.reference rootPath = some document ∧
    BaselineReader.isTyped document = false

/-- What the comparison of a report with values of other sorts than expected may come to. Whatever
it is, the report is otherwise the same. -/
inductive MayCompare (r : ScanReport) : Except Stop ScanReport → Prop where
  | compared (changes : List ChangeRecord) (renameHints : List RenameHint)
      (unverifiedSymbols : List String) :
      MayCompare r (.ok { r with changes := some changes, renameHints, unverifiedSymbols })
  | refused (message : String) : MayCompare r (.error (.reported ("Scan failed: " ++ message)))
  | failed (message : String) : MayCompare r (.error (.aborted (.comparison message)))

abbrev Scans := Setup → Option Baseline → Except Stop ScanReport

/-- What a scan may come to: a report on what may come of its build, unless it is compared with
values of other sorts than expected. -/
inductive MayScan (setup : Setup) (baseline : Option Baseline) (mistyped : Prop) :
    Except Stop ScanReport → Prop where
  | reported {build : Except BuildError Build}
      (came : Build.MayCome setup.engine.config setup.units build) :
      MayScan setup baseline mistyped
        (stopWith scanStop (setup.engine.runOn build baseline setup.aliases))
  | compared {b : Build} {r : ScanReport} {x : Except Stop ScanReport} (wrong : mistyped)
      (came : Build.MayCome setup.engine.config setup.units (.ok b)) (complete : b.complete = true)
      (reported : setup.engine.runOn (.ok b) none setup.aliases = .ok r)
    (compares : MayCompare r x) :
      MayScan setup baseline mistyped x

def Feasible (t : FileTree) (request : ScanRequest) (scans : Scans) : Prop :=
  ∀ setup baseline,
    MayScan setup baseline (Mistyped t request setup.rootPath) (scans setup baseline)

def scansOf (build : Setup → Except BuildError Build) : Scans := fun setup baseline =>
  stopWith scanStop (setup.engine.runOn (build setup) baseline setup.aliases)

theorem feasible_scansOf {build : Setup → Except BuildError Build}
    (came : ∀ setup, Build.MayCome setup.engine.config setup.units (build setup)) :
    Feasible t request (scansOf build) :=
  fun setup _ => .reported (came setup)

def leftAlone (setup : Setup) : Except BuildError Build :=
  Build.ofUnits setup.engine.config setup.units false

theorem feasible_leftAlone : Feasible t request (scansOf leftAlone) :=
  feasible_scansOf fun _ => .undisturbed (Build.ofUnits_outcome _ _ _)

/-! ## Stages -/

/-- What a scan works on, and the baseline that it takes. Opening the store of a baseline may change
the tree. -/
def prepare (tools : Tools) (t : FileTree) (request : ScanRequest) :
    FileTree × Except Stop (Setup × Option Baseline) :=
  match Setup.of tools t request with
  | .error stop => (t, .error stop)
  | .ok setup =>
    match baselineOf tools.limits t request.arguments.reference setup.rootPath with
    | (t, .error stop) => (t, .error stop)
    | (t, .ok baseline) => (t, .ok (setup, baseline))

/-- Everything before the store step: the root path and the report, or why there is none. -/
def survey (tools : Tools) (t : FileTree) (request : ScanRequest) (scans : Scans) :
    FileTree × Except Stop (String × ScanReport) :=
  match prepare tools t request with
  | (t, .error stop) => (t, .error stop)
  | (t, .ok (setup, baseline)) =>
    match scans setup baseline with
    | .error stop => (t, .error stop)
    | .ok r => (t, .ok (setup.rootPath, r))

def scanOn (tools : Tools) (t : FileTree) (request : ScanRequest) (scans : Scans) : Outcome :=
  match survey tools t request scans with
  | (t, .error stop) => .stopped t [] stop
  | (t, .ok (rootPath, r)) => conclude tools t request.arguments r rootPath

theorem scan_eq (tools : Tools) (t : FileTree) (request : ScanRequest) :
    scan tools t request = scanOn tools t request (scansOf leftAlone) := by
  unfold scan scanOn survey prepare
  cases Setup.of tools t request with
  | error stop => rfl
  | ok setup =>
      rcases found : baselineOf tools.limits t request.arguments.reference setup.rootPath with
        ⟨t', answer⟩
      simp only [found]
      cases answer with
      | error stop => rfl
      | ok baseline =>
          simp only [ScanEngine.run, scansOf, leftAlone]
          cases setup.engine.runOn (Build.ofUnits setup.engine.config setup.units false) baseline
            setup.aliases <;> rfl

section

variable {scans : Scans} {t' t'' : FileTree} {rootPath : String} {r : ScanReport} {stop : Stop}
  {displays shown : List Display}

theorem scanOn_of_stopped (h : survey tools t request scans = (t', .error stop)) :
    scanOn tools t request scans = .stopped t' [] stop := by
  rw [scanOn, h]

theorem scanOn_of_surveyed (h : survey tools t request scans = (t', .ok (rootPath, r))) :
    scanOn tools t request scans = conclude tools t' request.arguments r rootPath := by
  rw [scanOn, h]

variable {a : ScanArguments}

theorem conclude_of_unsaved (h : saveAll t a r rootPath = (t', .error stop)) :
    conclude tools t a r rootPath =
      .stopped t' (notesOn r) (stop.under "Failed to store run: ") := by
  simp only [conclude, h]

theorem conclude_of_unpresented (saved : saveAll t a r rootPath = (t', .ok ()))
    (h : present t' a r = .error stop) :
    conclude tools t a r rootPath = .stopped t' (notesOn r) stop := by
  simp only [conclude, saved, h]

theorem conclude_of_presented (tools : Tools) (saved : saveAll t a r rootPath = (t', .ok ()))
    (h : present t' a r = .ok (t'', displays)) :
    (tools.showAll displays).2 = none ∧ conclude tools t a r rootPath =
        ⟨t'', (tools.showAll displays).1, notesOn r,
          .exit (if r.complete then .success else .interrupted)⟩ ∨
      ∃ fault, (tools.showAll displays).2 = some fault ∧ conclude tools t a r rootPath =
        ⟨t'', (tools.showAll displays).1, notesOn r, .abort (.markup fault)⟩ := by
  simp only [conclude, saved, h]
  rcases tools.showAll displays with ⟨shown, fault | fault⟩
  · exact Or.inl ⟨rfl, rfl⟩
  · exact Or.inr ⟨fault, rfl, rfl⟩

theorem conclude_tree (tools : Tools) (saved : saveAll t a r rootPath = (t', .ok ()))
    (h : present t' a r = .ok (t'', displays)) : (conclude tools t a r rootPath).tree = t'' := by
  rcases conclude_of_presented tools saved h with ⟨-, same⟩ | ⟨fault, -, same⟩
  all_goals rw [same]

end

/-- Displays are shown up to the first with a fault, or all of them. -/
theorem showAll_cases (tools : Tools) (displays : List Display) :
    (∀ d ∈ displays, tools.faultOf? d = none) ∧ tools.showAll displays = (displays, none) ∨
      ∃ before d behind fault, displays = before ++ d :: behind ∧
        (∀ e ∈ before, tools.faultOf? e = none) ∧ tools.faultOf? d = some fault ∧
        tools.showAll displays = (before, some fault) := by
  induction displays with
  | nil => exact Or.inl ⟨nofun, rfl⟩
  | cons d rest ih =>
      unfold Tools.showAll
      cases faulty : tools.faultOf? d with
      | some fault => exact Or.inr ⟨[], d, rest, fault, rfl, nofun, faulty, rfl⟩
      | none =>
          rcases ih with ⟨sound, all⟩ | ⟨before, e, behind, fault, rfl, sound, found, part⟩
          · rw [all]
            exact Or.inl ⟨List.forall_mem_cons.mpr ⟨faulty, sound⟩, rfl⟩
          · rw [part]
            exact Or.inr ⟨d :: before, e, behind, fault, rfl,
              List.forall_mem_cons.mpr ⟨faulty, sound⟩, found, rfl⟩

/-- A scan that gets a report has been set up and has a baseline to take. -/
theorem survey_ok {scans : Scans} {t' : FileTree} {rootPath : String} {r : ScanReport}
    (h : survey tools t request scans = (t', .ok (rootPath, r))) :
    ∃ setup baseline, Setup.of tools t request = .ok setup ∧ scans setup baseline = .ok r ∧
      setup.rootPath = rootPath := by
  unfold survey prepare at h
  cases settled : Setup.of tools t request with
  | error stop =>
      rw [settled] at h
      cases h
  | ok setup =>
      rw [settled] at h
      rcases compared : baselineOf tools.limits t request.arguments.reference setup.rootPath with
        ⟨t₁, stop | baseline⟩
      · simp only [compared] at h
        cases h
      · simp only [compared] at h
        split at h
        · cases h
        · rename_i r' ran
          obtain ⟨rfl, rfl⟩ := Prod.mk.inj (Except.ok.inj (Prod.mk.inj h).2)
          exact ⟨setup, baseline, rfl, ran, rfl⟩

theorem baselineOf_fst (limits : Limits) (t : FileTree) (reference : Option Reference)
    (rootPath : String) :
    (baselineOf limits t reference rootPath).1 = t ∨
      ∃ path found, reference = some (.store path) ∧
        t.openStore (.ofText path) = .ok (some found) ∧
        (baselineOf limits t reference rootPath).1 =
          t.keepStore found.place found.content.open?.1 := by
  unfold baselineOf
  split
  · exact Or.inl rfl
  · exact Or.inl rfl
  · exact Or.inl rfl
  · exact Or.inl rfl
  · rename_i path _
    rcases withStore_cases t path (·.loadLatest rootPath) with
      ⟨stop, same, -⟩ | ⟨found, opened, same⟩
    · exact Or.inl (congrArg Prod.fst same)
    · refine Or.inr ⟨path, found, rfl, opened, ?_⟩
      show (withStore t path (·.loadLatest rootPath)).1 = _
      rw [same, StoreFile.loadLatest_fst]

theorem survey_fst (tools : Tools) (t : FileTree) (request : ScanRequest) (scans : Scans) :
    (survey tools t request scans).1 = t ∨
      ∃ path found, request.arguments.reference = some (.store path) ∧
        t.openStore (.ofText path) = .ok (some found) ∧
        (survey tools t request scans).1 = t.keepStore found.place found.content.open?.1 := by
  unfold survey prepare
  cases Setup.of tools t request with
  | error stop => exact Or.inl rfl
  | ok setup =>
      have tree := baselineOf_fst tools.limits t request.arguments.reference setup.rootPath
      rcases compared : baselineOf tools.limits t request.arguments.reference setup.rootPath with
        ⟨t₁, stop | baseline⟩
      · simp only [compared] at tree ⊢
        exact tree
      · simp only [compared] at tree ⊢
        split <;> exact tree

/-! ## Commands -/

/-- The outcomes of a command that is cut short: the end of the run is asked for outside of its
scan, whatever it has written by then, or its report holds values that cannot be shown. -/
inductive CutShort (tools : Tools) (t : FileTree) (request : ScanRequest) (scans : Scans) :
    Outcome → Prop where
  | interrupt (tree : FileTree) (shown : List Display) (notes : List String) :
      CutShort tools t request scans ⟨tree, shown, notes, .abort .interrupt⟩
  | comparison {t₁ t₂ : FileTree} {rootPath : String} {r : ScanReport} {shown : List Display}
      (surveyed : survey tools t request scans = (t₁, .ok (rootPath, r)))
      (saved : saveAll t₁ request.arguments r rootPath = (t₂, .ok ()))
      (wrong : Mistyped t request rootPath) (part : shown <+: Display.ofReport r)
      (message : String) :
      CutShort tools t request scans ⟨t₂, shown, notesOn r, .abort (.comparison message)⟩

inductive MayEnd (tools : Tools) (t : FileTree) (arguments : List String) : Outcome → Prop where
  | refused (unasked : ScanRequest.ofArguments? arguments = none) :
      MayEnd tools t arguments ⟨t, [], [], .exit .failure⟩
  | scanned {request : ScanRequest} {scans : Scans}
      (asked : ScanRequest.ofArguments? arguments = some request)
      (feasible : Feasible t request scans) :
      MayEnd tools t arguments (scanOn tools t request scans)
  | cut {request : ScanRequest} {scans : Scans} {o : Outcome}
      (asked : ScanRequest.ofArguments? arguments = some request)
      (feasible : Feasible t request scans) (short : CutShort tools t request scans o) :
      MayEnd tools t arguments o

/-- A command may end as it does when nobody asks for the end of its run. -/
theorem mayEnd_run (tools : Tools) (t : FileTree) (arguments : List String) :
    MayEnd tools t arguments (run tools t arguments) := by
  unfold run
  cases asked : ScanRequest.ofArguments? arguments with
  | none => exact .refused asked
  | some request =>
      simp only [scan_eq]
      exact .scanned asked feasible_leftAlone

end Command

end TacticalDesign
