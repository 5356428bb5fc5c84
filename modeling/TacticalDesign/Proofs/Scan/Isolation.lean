import TacticalDesign.Document
import TacticalDesign.Proofs.Declaration.Reading
import TacticalDesign.Proofs.Scan.Reordering
/-!
# Units of a declaration document stand for themselves

An entry that stands for no declaration, or for one without a name, takes its whole unit with it
and nothing else: the unit is skipped as unparseable, and all that the other units give is what
they give without it.
-/

namespace TacticalDesign

namespace DeclarationReader

/-- An entry that stands for no declaration, or for one without a name. -/
def Unusable (entry : Json) : Prop :=
  (¬∃ d, ReadsDeclaration entry d) ∨
    ∃ d, ReadsDeclaration entry d ∧ Text.isBlankText d.name = true

theorem readsDeclaration_unique {entry : Json} {d d' : TypeDeclaration}
    (h : ReadsDeclaration entry d) (h' : ReadsDeclaration entry d') : d = d' :=
  Except.ok.inj ((declaration_eq_ok.mpr h).symm.trans (declaration_eq_ok.mpr h'))

/-- What is read of a unit with an unusable entry has a declaration without a name. -/
theorem nameless_of_unusable {item : List (String × Json)} {entries : List Json} {entry : Json}
    {ds : List TypeDeclaration} (listed : Json.lookup "declarations" item = some (.array entries))
    (there : entry ∈ entries) (unusable : Unusable entry) (read : ReadsUnit item ds) :
    ∃ d ∈ ds, Text.isBlankText d.name = true := by
  rcases read with ⟨-, absent⟩ | ⟨-, listed', each⟩
  · rw [listed] at absent
    cases absent
  · obtain rfl : entries = _ := Json.array.inj (Option.some.inj (listed.symm.trans listed'))
    obtain ⟨i, hi, rfl⟩ := List.mem_iff_getElem.mp there
    have reads := each.get hi (each.length_eq ▸ hi)
    rcases unusable with unread | ⟨d, reads', blank⟩
    · exact absurd ⟨_, reads⟩ unread
    · exact ⟨_, List.getElem_mem _, readsDeclaration_unique reads reads' ▸ blank⟩

end DeclarationReader

/-! ## Units -/

namespace SourceUnit

variable {u : SourceUnit} {item : List (String × Json)}

theorem returns_of_document (document : u.extraction = .ofDocument item) : u.yield?.isSome := by
  rw [Option.isSome_iff_ne_none, ne_eq, yield?_eq_none_iff, document, Extraction.ofDocument]
  split <;> simp

theorem yield?_of_unusable {entries : List Json} {entry : Json}
    (document : u.extraction = .ofDocument item)
    (listed : Json.lookup "declarations" item = some (.array entries)) (there : entry ∈ entries)
    (unusable : DeclarationReader.Unusable entry) :
    ∃ f, f.recoverable = true ∧ u.yield? = some (.skip (u.unparseable f)) := by
  unfold Extraction.ofDocument at document
  cases read : DeclarationReader.unit item with
  | ok ds =>
      obtain ⟨d, hd, blank⟩ := DeclarationReader.nameless_of_unusable listed there unusable
        (DeclarationReader.unit_eq_ok.mp read)
      rw [read] at document
      refine ⟨.value ("Declaration without a name in " ++ u.path), rfl, ?_⟩
      have nameless : (ds.any fun d => Text.isBlankText d.name) = true :=
        List.any_eq_true.mpr ⟨d, hd, blank⟩
      simp only [yield?, document, symbolsOf, if_pos nameless]
  | error p =>
      rw [read] at document
      obtain ⟨text, unparseable⟩ := DeclarationReader.toFailure_of_unit_error read
      exact ⟨p.toFailure, congrArg (·.recoverable) unparseable, yield?_of_failed document⟩

end SourceUnit

theorem ScanConfig.maxWorkers_pos {config : ScanConfig} (accepted : config.violation? = none) :
    0 < config.maxWorkers := by
  simp only [violation?, if_some_eq_none] at accepted
  obtain ⟨-, -, -, -, -, -, -, -, -, workers, -⟩ := accepted
  omega

/-! ## Builds -/

namespace Build

/-- A unit that fails gives the build a skip in its place and nothing else. -/
theorem inOrder_insert_failing {config : ScanConfig} (employs : 0 < config.maxWorkers)
    {before after : List SourceUnit} {u : SourceUnit} {f : Failure}
    (prompt : Prompt (before ++ after)) (fails : u.yield? = some (.skip (u.unparseable f))) :
    ∃ b b', inOrder config (before ++ u :: after) false = .ok b ∧
      inOrder config (before ++ after) false = .ok b' ∧
      b.graph = b'.graph ∧ b.processedPaths = b'.processedPaths ∧
      b.complete = true ∧ b'.complete = true ∧
      b.skipped = before.filterMap (·.skip? config.unitTimeout) ++
        u.unparseable f :: after.filterMap (·.skip? config.unitTimeout) ∧
      b'.skipped = before.filterMap (·.skip? config.unitTimeout) ++
        after.filterMap (·.skip? config.unitTimeout) := by
  have prompt' : Prompt (before ++ u :: after) := by
    intro v hv
    rcases List.mem_append.mp hv with hv | hv
    · exact prompt v (List.mem_append_left _ hv)
    · rcases List.mem_cons.mp hv with rfl | hv
      · rw [fails]
        rfl
      · exact prompt v (List.mem_append_right _ hv)
  have no_part : u.part? = none := by rw [SourceUnit.part?, fails]; rfl
  have skip : u.skip? config.unitTimeout = some (u.unparseable f) := by
    rw [SourceUnit.skip?, fails]
    rfl
  have parts : (before ++ u :: after).filterMap (·.part?) =
      (before ++ after).filterMap (·.part?) := by
    rw [List.filterMap_append, List.filterMap_cons_none no_part, ← List.filterMap_append]
  obtain ⟨g, hg, -⟩ :=
    SymbolGraph.ofSymbols_ok (((before ++ after).filterMap (·.part?)).flatMap (·.symbols))
  rw [inOrder_of_prompt prompt' employs, inOrder_of_prompt prompt employs]
  simp only [ofHarvest, parts, hg]
  refine ⟨_, _, rfl, rfl, rfl, rfl, rfl, rfl, ?_, List.filterMap_append⟩
  rw [List.filterMap_append, List.filterMap_cons_some skip]

end Build

theorem Pool.Run.parts_of_failing {w : Workload} {acts : List Pool.Action} {s : Pool} {i : Nat}
    {u : SourceUnit} {k : SkippedUnit} (run : Pool.Run w (Pool.submitted w.size) acts s)
    (place : w.units[i]? = some u) (fails : u.yield? = some (.skip k)) : s.parts i = none := by
  refine Option.eq_none_iff_forall_ne_some.mpr fun p hp => ?_
  have made := run.partAt?_of_parts hp
  simp [Workload.partAt?, Workload.yieldAt?, place, fails, Yield.part?] at made

namespace DeclarationReader

/-- A unit is read with known words only, or it is unparseable; and a unit with an unusable entry
is skipped alone, in every build over units of documents and however the workers take turns. The one
other outcome of such a build is the failure of a wait that is too long. -/
theorem unusable_entry_skips_its_unit (config : ScanConfig) :
    (∀ item, (∃ ds, unit item = .ok ds ∧ ReadsUnit item ds ∧ ∀ d ∈ ds, d.Known) ∨
      ∃ p, unit item = .error p ∧ (¬∃ ds, ReadsUnit item ds) ∧
        p.toFailure.kind = "UnparseableUnitError") ∧
    ∀ (before after : List SourceUnit) (u : SourceUnit) (item : List (String × Json))
      (entries : List Json) (entry : Json),
      config.violation? = none →
      (∀ v ∈ before ++ after, ∃ item, v.extraction = .ofDocument item) →
      u.extraction = .ofDocument item →
      Json.lookup "declarations" item = some (.array entries) → entry ∈ entries →
      Unusable entry →
      ∃ f b b', f.recoverable = true ∧
        Build.Gives config (before ++ u :: after) false b ∧
        Build.Gives config (before ++ after) false b' ∧
        b.graph = b'.graph ∧ b.processedPaths = b'.processedPaths ∧
        b.complete = true ∧ b'.complete = true ∧
        b.skipped = before.filterMap (·.skip? config.unitTimeout) ++
          u.unparseable f :: after.filterMap (·.skip? config.unitTimeout) ∧
        b'.skipped = before.filterMap (·.skip? config.unitTimeout) ++
          after.filterMap (·.skip? config.unitTimeout) ∧
        ∀ acts s, Pool.Run (.ofConfig config (before ++ u :: after))
            (Pool.submitted (before ++ u :: after).length) acts s →
          s.parts before.length = none ∧
          ((∀ a ∈ acts, Pool.Undisturbed (.ofConfig config (before ++ u :: after)) a) →
            ∀ x, s.result? (before ++ u :: after).length = some x →
              x = .ok b ∨ Build.overdraws config (before ++ u :: after) false = true ∧
                x = .error .waitTooLong) := by
  constructor
  · intro item
    cases read : unit item with
    | ok ds =>
        have reads := unit_eq_ok.mp read
        refine Or.inl ⟨ds, rfl, reads, fun d hd => ?_⟩
        exact known_of_readsUnit reads hd
    | error p =>
        obtain ⟨text, unparseable⟩ := toFailure_of_unit_error read
        refine Or.inr ⟨p, rfl, ?_, congrArg (·.kind) unparseable⟩
        rintro ⟨ds, reads⟩
        rw [unit_eq_ok.mpr reads] at read
        cases read
  · intro before after u item entries entry accepted documents document listed there unusable
    obtain ⟨f, recoverable, fails⟩ :=
      SourceUnit.yield?_of_unusable document listed there unusable
    have employs := ScanConfig.maxWorkers_pos accepted
    have prompt : Prompt (before ++ after) := fun v hv =>
      (documents v hv).elim fun _ h => SourceUnit.returns_of_document h
    obtain ⟨b, b', built, built', graph, paths, complete, complete', skipped, skipped'⟩ :=
      Build.inOrder_insert_failing employs prompt fails
    have gives := Build.gives_of_inOrder built
    refine ⟨f, b, b', recoverable, gives, Build.gives_of_inOrder built', graph, paths, complete,
      complete', skipped, skipped', fun acts s run => ⟨?_, fun calm x result => ?_⟩⟩
    · exact run.parts_of_failing (by simp [Workload.ofConfig]) fails
    · have returns : Prompt (before ++ u :: after) := by
        simpa [Prompt, or_imp, forall_and, fails] using prompt
      exact gives x (Pool.outcome_of_result employs returns.obedient run calm result)

def cartEntry : Json := .object [("name", .string "Cart")]

def oddEntry : Json := .object [("name", .string "Order"), ("kind", .int 5)]

theorem unusable_oddEntry : Unusable oddEntry := by
  refine Or.inl ?_
  rintro ⟨d, read⟩
  have refused : declaration oddEntry = .error (.unknownKind (.int 5)) := rfl
  rw [declaration_eq_ok.mpr read] at refused
  cases refused

def documentUnit (path : String) (entries : List Json) : SourceUnit :=
  ⟨path, "java", .ofDocument [("declarations", .array entries)]⟩

/-- Beside the odd entry its unit's class is lost too, and the other unit's class is kept. -/
theorem unusable_entry_skips_second_unit :
    ∃ f b b',
      Build.ofUnits {} [documentUnit "a.java" [cartEntry],
        documentUnit "b.java" [cartEntry, oddEntry]] false = .ok b ∧
      Build.ofUnits {} [documentUnit "a.java" [cartEntry]] false = .ok b' ∧
      b.graph = b'.graph ∧
      b.skipped = [(documentUnit "b.java" [cartEntry, oddEntry]).unparseable f] ∧
      b'.skipped = [] := by
  obtain ⟨f, b, b', -, gives, gives', graph, -, -, -, skipped, skipped', -⟩ :=
    (unusable_entry_skips_its_unit {}).2 [documentUnit "a.java" [cartEntry]] []
      (documentUnit "b.java" [cartEntry, oddEntry])
      [("declarations", .array [cartEntry, oddEntry])] [cartEntry, oddEntry] oddEntry
      (by decide) (List.forall_mem_singleton.mpr ⟨[("declarations", .array [cartEntry])], rfl⟩)
      rfl rfl (List.mem_cons_of_mem _ List.mem_cons_self) unusable_oddEntry
  exact ⟨f, b, b', gives.ofUnits_eq (by decide), gives'.ofUnits_eq (by decide), graph, skipped,
    skipped'⟩

/-- With an accepted poll interval of ten billion seconds the same units may come to no build. -/
theorem unusable_entry_in_no_build :
    let config : ScanConfig := { pollInterval := 1e10 }
    config.check = .ok config ∧
      Build.Outcome config [documentUnit "a.java" [cartEntry],
        documentUnit "b.java" [cartEntry, oddEntry]] false (.error .waitTooLong) := by
  intro config
  have accepted : config.violation? = none := by decide
  have beyond : Build.longestWait < config.pollInterval := by decide
  exact ⟨by simp only [ScanConfig.check, accepted], .overdrawn (by simp [Build.overdraws, beyond])⟩

end DeclarationReader

end TacticalDesign
