import TacticalDesign.Proofs.Command.Endings
import TacticalDesign.Proofs.Command.Saving
/-!
# What a command that fails leaves behind

A command that exits with the code of a failure has disturbed neither of its two files, unless its
scan was complete and a step behind the report failed. What was stored before that step stays
stored.
-/

namespace TacticalDesign

open Command FileTree

namespace SharedFiles

variable {s : SharedFiles} {tools : Tools} {t t' t'' : FileTree} {a : ScanArguments}
  {rootPath : String} {r : ScanReport} {arguments : List String} {o : Outcome}

theorem Left.after {kept : Bool} (h : s.Left a rootPath r kept t' t'')
    (before : s.Undisturbed t t') : s.Left a rootPath r kept t t'' where
  home := h.home.trans before.home
  file := by
    have file := h.file
    split at file
    · rwa [if_pos ‹_›]
    · rw [if_neg ‹_›]
      exact before.file.trans file
  answers stored := (h.answers stored).after before.answers

theorem stopped_tree (t : FileTree) (notes : List String) (stop : Stop) :
    (Outcome.stopped t notes stop).tree = t := by
  cases stop <;> rfl

/-- What a command that fails leaves behind. -/
theorem undisturbed_or_left (faithful : Faithful tools.frontEnd) (ends : MayEnd tools t arguments o)
    (failed : o.ending = .exit .failure) (apart : s.Apart t)
    (used : ∀ request, ScanRequest.ofArguments? arguments = some request → s.UsedBy t request) :
    s.Undisturbed t o.tree ∨
    ∃ request scans t₁ t₂ rootPath r, ScanRequest.ofArguments? arguments = some request ∧
      Feasible t request scans ∧ survey tools t request scans = (t₁, .ok (rootPath, r)) ∧
      r.complete = true ∧
      ((∃ stop, saveAll t₁ request.arguments r rootPath = (t₂, .error stop)) ∧
          s.Left request.arguments rootPath r false t o.tree ∨
        saveAll t₁ request.arguments r rootPath = (t₂, .ok ()) ∧
          (∃ stop, present t₂ request.arguments r = .error stop) ∧
          s.Left request.arguments rootPath r true t o.tree) := by
  cases ends with
  | refused unasked => exact Or.inl (.refl s t)
  | cut asked feasible short => cases short <;> cases failed
  | @scanned request scans asked feasible =>
      have used := used request asked
      have before := undisturbed_of_survey used tools scans
      rcases surveyed : survey tools t request scans with ⟨t₁, stop | ⟨rootPath, r⟩⟩
      · rw [scanOn_of_stopped surveyed, stopped_tree]
        rw [surveyed] at before
        exact Or.inl before
      rw [surveyed] at before
      have apart₁ := apart.of_home before.home
      have canonical := canonical_of_survey faithful feasible surveyed
      rw [scanOn_of_surveyed surveyed] at failed ⊢
      rcases kept : saveAll t₁ request.arguments r rootPath with ⟨t₂, stop | ⟨⟩⟩
      · rw [conclude_of_unsaved kept] at failed ⊢
        rw [stopped_tree]
        have told (b : Abort) : Except.error stop ≠ (.error (.aborted b) : Except Stop Unit) := by
          intro same
          obtain rfl := Except.error.inj same
          cases failed
        rcases left_of_saveAll apart₁ used.saves used.keeps canonical kept told with
          ⟨-, undisturbed⟩ | ⟨complete, left⟩
        · exact Or.inl (before.trans undisturbed)
        · exact Or.inr ⟨request, scans, t₁, t₂, rootPath, r, asked, feasible, surveyed, complete,
            Or.inl ⟨⟨stop, kept⟩, left.after before⟩⟩
      rcases presented : present t₂ request.arguments r with stop | ⟨t₃, displays⟩
      · rw [conclude_of_unpresented kept presented, stopped_tree]
        rcases left_of_saveAll apart₁ used.saves used.keeps canonical kept nofun with
          ⟨incomplete | ⟨stop', contrary⟩, undisturbed⟩ | ⟨complete, left⟩
        · exact Or.inl (before.trans undisturbed)
        · cases contrary
        · exact Or.inr ⟨request, scans, t₁, t₂, rootPath, r, asked, feasible, surveyed, complete,
            Or.inr ⟨kept, ⟨stop, presented⟩, left.after before⟩⟩
      · rcases conclude_of_presented tools kept presented with
          ⟨-, same⟩ | ⟨fault, -, same⟩
        · rw [same] at failed
          have code := Ending.exit.inj failed
          split at code <;> cases code
        · rw [same] at failed
          cases failed

def scanArguments (s : SharedFiles) (others : List String) : List String :=
  ["scan", "--declarations", "units.json", "--save-baseline", s.baseline, "--db", s.store] ++ others

def sampleFiles : SharedFiles := ⟨"base.json", "units.json"⟩

def sampleArguments : List String := sampleFiles.scanArguments []

theorem names_of_arguments {request : ScanRequest} {saved kept shown : Option String}
    {reference : Option Reference} (asked : ScanRequest.ofArguments? arguments = some request)
    (read : (ScanRequest.ofArguments? arguments).map (fun r =>
      (given? r.arguments.saveBaseline, given? r.arguments.store, r.arguments.reference,
        given? r.arguments.output)) = some (saved, kept, reference, shown)) :
    given? request.arguments.saveBaseline = saved ∧ given? request.arguments.store = kept ∧
      request.arguments.reference = reference ∧ given? request.arguments.output = shown := by
  rw [asked] at read
  simpa only [Option.map_some, Option.some.injEq, Prod.mk.injEq] using read

theorem sample_names {request : ScanRequest}
    (asked : ScanRequest.ofArguments? sampleArguments = some request) :
    given? request.arguments.saveBaseline = some "base.json" ∧
      given? request.arguments.store = some "units.json" ∧
      request.arguments.reference = none ∧ given? request.arguments.output = none :=
  names_of_arguments asked (by decide +kernel)

theorem sample_usedBy {request : ScanRequest}
    (asked : ScanRequest.ofArguments? sampleArguments = some request) :
    sampleFiles.UsedBy sampleTree request := by
  obtain ⟨saves, keeps, reference, -⟩ := sample_names asked
  refine ⟨fun path given => ?_, fun path given => ?_, fun path compared => ?_⟩
  · exact Option.some.inj (given.symm.trans saves)
  · exact Option.some.inj (given.symm.trans keeps)
  · rw [reference] at compared
    cases compared

def MakesFile (tools : Tools) (arguments : List String) (code : ExitCode) : Prop :=
  (run tools sampleTree arguments).ending = .exit code ∧
    (sampleTree.fileAt? (.ofText "base.json")).isSome = false ∧
    ((run tools sampleTree arguments).tree.fileAt? (.ofText "base.json")).isSome = true

instance (tools : Tools) (arguments : List String) (code : ExitCode) :
    Decidable (MakesFile tools arguments code) :=
  inferInstanceAs (Decidable (_ ∧ _))

theorem sample_makesFile : MakesFile .standard sampleArguments .failure := by decide +kernel

/-- A complete report is in its file although the command fails over its store. -/
theorem left_beside_foreign_store :
    sampleFiles.Apart sampleTree ∧
      (run .standard sampleTree sampleArguments).ending = .exit .failure ∧
      ∃ rootPath r, ScanReport.complete r = true ∧
        Baseline.ofDocument ((run .standard sampleTree sampleArguments).tree.read
          sampleFiles.basePath) = .ok (r.capture rootPath) := by
  have apart : sampleFiles.Apart sampleTree := by
    unfold Apart
    decide +kernel
  obtain ⟨fails, absent, written⟩ := sample_makesFile
  refine ⟨apart, fails, ?_⟩
  rcases undisturbed_or_left faithful_ofDocument
      (mayEnd_run .standard sampleTree sampleArguments) fails apart
      (fun request asked => sample_usedBy asked) with
    undisturbed | ⟨request, scans, t₁, t₂, rootPath, r, asked, -, -, complete, left⟩
  · have same := congrArg Option.isSome undisturbed.file.there
    exact absurd (absent.symm.trans (same.symm.trans written)) Bool.false_ne_true
  · obtain ⟨saves, -, -⟩ := sample_names asked
    rcases left with ⟨-, left⟩ | ⟨-, -, left⟩
    · have holds := left.file
      rw [saves] at holds
      exact ⟨rootPath, r, complete, holds⟩
    · have holds := left.file
      rw [saves] at holds
      exact ⟨rootPath, r, complete, holds⟩

/-- The scan of a unit in which the end of the command is asked for. -/
def interrupting : Tools :=
  { Tools.standard with frontEnd := fun _ => .ok [⟨"a.java", "java", .cancelling⟩] }

/-- The file for baselines is new although the command fails: over its store behind a complete
scan, and, without one, where that file is the store as well or is the store to compare with. -/
theorem file_new_after_failure :
    MakesFile .standard sampleArguments .failure ∧
      MakesFile interrupting
        (scanArguments ⟨"base.json", "base.json"⟩ ["--format", "json", "--output", "runs"])
        .failure ∧
      MakesFile interrupting
        (scanArguments ⟨"base.json", "runs.db"⟩
          ["--baseline-db", "base.json", "--format", "json", "--output", "runs"]) .failure :=
  ⟨sample_makesFile, by decide +kernel⟩

end SharedFiles

end TacticalDesign
