import TacticalDesign.Proofs.Diff.Remainder
/-!
# A graph against itself or a larger one

Where a graph is compared with a larger one in which its symbols have the edges that they had, and
the two runs agree on what they found out about each of them, there is nothing to tell but the new
symbols; so there is nothing to tell about a graph that stayed as it was.
-/

namespace TacticalDesign

namespace Classification

/-- What a comparison looks at in a classification. -/
def gist (c : Classification) : Role × Level × List String := (c.role, c.confidence, c.evidence)

def Agree (prior current : List Classification) : Prop :=
  ∀ id, (of? prior id).map gist = (of? current id).map gist

theorem agree_refl (items : List Classification) : Agree items items := fun _ => rfl

end Classification

namespace StructuralDiff

/-- Two revisions of alike symbols with the same edges and the same gist do not differ. -/
theorem isEmpty_of_alike {old new : Revision} (alike : old.symbol.Alike new.symbol)
    (edges : ∀ e, e ∈ old.edges ↔ e ∈ new.edges)
    (gist : old.classification.map (·.gist) = new.classification.map (·.gist)) :
    (between old new).isEmpty = true := by
  have nothing : (between old new).LosesNothing :=
    losesNothing_of_alike alike fun e he => (edges e).mp he
  have by_part : ∀ {α : Type} (part : Role × Level × List String → α),
      old.classification.map (fun c => part c.gist) =
        new.classification.map (fun c => part c.gist) := by
    intro α part
    have mapped := congrArg (Option.map part) gist
    simpa only [Option.map_map, Function.comp_def] using mapped
  have role : old.classification.map (·.role) = new.classification.map (·.role) := by_part (·.1)
  have confidence : old.classification.map (·.confidence) =
      new.classification.map (·.confidence) := by_part (·.2.1)
  have evidence : old.classification.map (·.evidence) = new.classification.map (·.evidence) :=
    by_part (·.2.2)
  have comparable : (comparableEvidence old.classification new.classification).1 =
      (comparableEvidence old.classification new.classification).2 := by
    cases hold : old.classification with
    | none => rfl
    | some a =>
        cases hnew : new.classification with
        | none => rfl
        | some b =>
            simp only [hold, hnew, Option.map_some, Option.some.injEq] at role evidence
            simp only [comparableEvidence, if_pos role, evidence]
  have added : (between old new).relationshipsAdded = [] :=
    without_eq_nil_iff.mpr fun e he => (edges e).mpr he
  have no_evidence : (between old new).evidenceAdded = [] ∧
      (between old new).evidenceRemoved = [] := by
    rw [between, comparable]
    exact ⟨without_self _, without_self _⟩
  rw [isEmpty_eq_true_iff]
  refine ⟨⟨nothing.fieldsAdded, nothing.fieldsRemoved, nothing.fieldsChanged⟩,
    ⟨nothing.methodsAdded, nothing.methodsRemoved, nothing.methodsChanged⟩,
    ⟨added, nothing.relationshipsRemoved⟩, nothing.shapeChanged, no_evidence, ?_, ?_⟩
  · simp [between, role]
  · simp [between, confidence]

theorem eq_empty_of_isEmpty {d : StructuralDiff} (empty : d.isEmpty = true) : d = {} := by
  rw [isEmpty_eq_true_iff] at empty
  obtain ⟨_, _, _, _, _, _, _, _, _, _, _, _, _⟩ := d
  simp_all

end StructuralDiff

namespace Comparison

variable {c : Comparison} {prior current : List Classification} {s : Symbol}

/-! ## Without aliases -/

section NoAliases

variable (bare : c.aliases = [])

include bare

theorem target_of_bare (id : String) : c.target id = id := by
  rw [target, bare, Aliases.target_nil]

theorem matchedIds_of_bare : c.matchedIds = c.old.ids := by
  rw [matchedIds, funext (target_of_bare bare)]
  exact List.map_id _

theorem unverified_of_bare (kept : ∀ id ∈ c.old.ids, id ∈ c.new.ids) : c.unverified = [] := by
  unfold unverified
  rw [List.map_eq_nil_iff, List.filter_eq_nil_iff]
  intro s hs unverified
  apply (isUnverified_iff.mp unverified).2
  rw [target_of_bare bare]
  exact kept s.id (SymbolGraph.mem_ids_of_mem hs)

end NoAliases

/-- The later graph has the symbols of the earlier one, and those have the edges that they had. -/
structure Enlarges (c : Comparison) : Prop where
  aliases : c.aliases = []
  symbols : ∀ s ∈ c.old.symbols, s ∈ c.new.symbols
  edges : ∀ e : Relationship, e.sourceId ∈ c.old.ids →
    (e ∈ c.new.relationships ↔ e ∈ c.old.relationships)

namespace Enlarges

theorem target_eq (h : c.Enlarges) (id : String) : c.target id = id :=
  target_of_bare h.aliases id

theorem unverified_eq_nil (h : c.Enlarges) : c.unverified = [] := by
  apply unverified_of_bare h.aliases
  intro id hid
  obtain ⟨s, hs, rfl⟩ := List.mem_map.mp hid
  exact SymbolGraph.mem_ids_of_mem (h.symbols s hs)

theorem matchedIds_eq (h : c.Enlarges) : c.matchedIds = c.old.ids :=
  matchedIds_of_bare h.aliases

theorem mem_facts_iff (h : c.Enlarges) (hs : s ∈ c.old.symbols) (fact : EdgeFact) :
    fact ∈ c.oldFacts s.id ↔ fact ∈ c.newFacts s.id := by
  rw [mem_oldFacts, mem_newFacts]
  simp only [h.unverified_eq_nil, h.target_eq, List.not_mem_nil, not_false_eq_true, true_and]
  apply exists_congr
  intro e
  apply and_congr_left
  rintro ⟨source, -⟩
  exact (h.edges e (source ▸ SymbolGraph.mem_ids_of_mem hs)).symm

/-- A symbol of the earlier graph has no record where what is known of it agrees. -/
theorem recordOf_eq_none (h : c.Enlarges) (hs : s ∈ c.old.symbols)
    (agree : (Classification.of? prior s.id).map (·.gist) =
      (Classification.of? current s.id).map (·.gist)) :
    c.recordOf prior current s = none := by
  have edges : ∀ text, text ∈ c.oldEdges s.id ↔ text ∈ c.newEdges s.id := by
    intro text
    simp only [oldEdges_eq, newEdges_eq, List.mem_map, h.mem_facts_iff hs]
  have empty : (c.diffOf prior current s s).isEmpty = true :=
    StructuralDiff.isEmpty_of_alike (.refl s) edges agree
  rw [recordOf_of_match (h.symbols s hs) (h.target_eq s.id), empty]
  simp

theorem mem_records_iff (h : c.Enlarges)
    (agree : ∀ s ∈ c.old.symbols, (Classification.of? prior s.id).map (·.gist) =
      (Classification.of? current s.id).map (·.gist)) {r : ChangeRecord} :
    r ∈ c.records prior current ↔
      ∃ t ∈ c.new.symbols, t.id ∉ c.old.ids ∧ addition current t = r := by
  rw [mem_records, mem_unordered, mem_addedRecords, h.matchedIds_eq]
  constructor
  · rintro (⟨s, hs, -, recorded⟩ | added)
    · rw [h.recordOf_eq_none hs (agree s hs)] at recorded
      cases recorded
    · exact added
  · exact Or.inr

end Enlarges

variable (g : SymbolGraph) (skippedPaths : List String)

end Comparison

end TacticalDesign
