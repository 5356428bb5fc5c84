import TacticalDesign.Proofs.Diff.Exactness
/-!
# Comparing the other way round

Without aliases and skipped paths the baseline and the later run can change places: what was removed
is added then, what was added is removed, and what was modified is modified with both sides of its
difference exchanged.
-/

namespace TacticalDesign

namespace StructuralDiff

def mirror (d : StructuralDiff) : StructuralDiff :=
  { d with
    fieldsAdded := d.fieldsRemoved
    fieldsRemoved := d.fieldsAdded
    methodsAdded := d.methodsRemoved
    methodsRemoved := d.methodsAdded
    relationshipsAdded := d.relationshipsRemoved
    relationshipsRemoved := d.relationshipsAdded
    evidenceAdded := d.evidenceRemoved
    evidenceRemoved := d.evidenceAdded }

theorem isEmpty_mirror (d : StructuralDiff) : d.mirror.isEmpty = d.isEmpty := by
  apply Bool.eq_iff_iff.mpr
  rw [isEmpty_eq_true_iff, isEmpty_eq_true_iff]
  unfold mirror
  tauto

theorem changedNames_comm {α : Type} [BEq α] [LawfulBEq α] (old new : List String)
    (before after : String → α) :
    changedNames new old (fun name => after name == before name) =
      changedNames old new fun name => before name == after name := by
  apply textSet_congr
  intro name
  simp only [List.mem_filter, Bool.and_eq_true, decide_eq_true_eq, Bool.beq_comm (a := after name)]
  tauto

theorem shapeChanges_comm (s t : Symbol) : shapeChanges t s = shapeChanges s t := by
  simp only [shapeChanges, eq_comm (a := t.kind), eq_comm (a := t.bases),
    eq_comm (a := t.valueEquality), eq_comm (a := t.isAbstract)]

theorem comparableEvidence_comm (before after : Option Classification) :
    comparableEvidence after before = (comparableEvidence before after).swap := by
  cases before with
  | none => cases after <;> rfl
  | some a =>
      cases after with
      | none => rfl
      | some b =>
          by_cases same : a.role = b.role
          · rw [comparableEvidence, comparableEvidence, if_pos same, if_pos same.symm]
            rfl
          · rw [comparableEvidence, comparableEvidence, if_neg same, if_neg (Ne.symm same)]
            rfl

theorem between_mirror (old new : Revision) : between new old = (between old new).mirror := by
  have flag : ∀ {α : Type} [BEq α] [LawfulBEq α] (a b : α), (b != a) = (a != b) := by
    intro α _ _ a b
    rw [bne, bne, Bool.beq_comm]
  simp only [between, mirror, changedNames_comm (fieldNames old.symbol),
    changedNames_comm (methodNames old.symbol), shapeChanges_comm old.symbol,
    comparableEvidence_comm old.classification, flag (old.classification.map _), Prod.fst_swap,
    Prod.snd_swap]

end StructuralDiff

namespace ChangeKind

def mirror : ChangeKind → ChangeKind
  | removed => added
  | modified => modified
  | added => removed

end ChangeKind

namespace ChangeRecord

def mirror (r : ChangeRecord) : ChangeRecord :=
  { r with
    kind := r.kind.mirror
    prior := r.current
    current := r.prior
    diff := r.diff.map StructuralDiff.mirror }

theorem mirror_mirror (r : ChangeRecord) : r.mirror.mirror = r := by
  obtain ⟨id, kind, prior, current, diff, priorId⟩ := r
  cases kind <;> cases diff <;> rfl

end ChangeRecord

namespace Comparison

variable {g h : SymbolGraph} {prior current : List Classification} {s t : Symbol}

def direct (g h : SymbolGraph) : Comparison := ⟨g, h, [], []⟩

theorem unverified_direct : (direct g h).unverified = [] := by
  apply List.eq_nil_iff_forall_not_mem.mpr
  intro id hid
  obtain ⟨s, hs, -⟩ := List.mem_map.mp hid
  have skipped := (isUnverified_iff.mp (List.mem_filter.mp hs).2).1
  exact List.not_mem_nil skipped

theorem matchedIds_direct : (direct g h).matchedIds = g.ids := by
  apply List.map_id

theorem oldEdges_direct (id : String) : (direct g h).oldEdges id = (direct h g).newEdges id := by
  rw [oldEdges, newEdges, unverified_direct]
  simp [target, direct, Aliases.target_nil]

theorem diffOf_direct :
    (direct h g).diffOf current prior t s = ((direct g h).diffOf prior current s t).mirror := by
  rw [diffOf, diffOf, ← StructuralDiff.between_mirror, oldEdges_direct, oldEdges_direct]

theorem modification_direct (same : s.id = t.id) :
    (direct h g).modification current prior t s =
      ((direct g h).modification prior current s t).mirror := by
  unfold modification ChangeRecord.mirror
  rw [diffOf_direct, if_pos same, if_pos same.symm, same]
  rfl

theorem mirror_mem_records {r : ChangeRecord} (hr : r ∈ (direct g h).records prior current) :
    r.mirror ∈ (direct h g).records current prior := by
  rw [mem_records_iff, matchedIds_direct] at hr ⊢
  rcases hr with ⟨s, hs, gone, -, rfl⟩ | ⟨t, ht, fresh, rfl⟩ | ⟨s, hs, t, ht, same, differs, rfl⟩
  · exact Or.inr (Or.inl ⟨s, hs, gone, rfl⟩)
  · exact Or.inl ⟨t, ht, fresh, List.not_mem_nil, rfl⟩
  · change s.id = t.id at same
    refine Or.inr (Or.inr ⟨t, ht, s, hs, same.symm, ?_, modification_direct same⟩)
    rw [diffOf_direct, StructuralDiff.isEmpty_mirror, Bool.beq_comm]
    exact differs

theorem records_direct :
    (direct h g).records current prior =
      ((direct g h).records prior current).map ChangeRecord.mirror := by
  have ascend : ∀ {a b : SymbolGraph} {before after : List Classification},
      ((direct a b).records before after).Pairwise fun r r' => r.symbolId < r'.symbolId :=
    (conserved_records (Aliases.not_misfit_nil _ _)).ascend
  apply eq_of_ascend ChangeRecord.symbolId ascend
  · exact List.pairwise_map.mpr ascend
  · intro r
    rw [List.mem_map]
    constructor
    · intro hr
      exact ⟨r.mirror, mirror_mem_records hr, r.mirror_mirror⟩
    · rintro ⟨r', hr', rfl⟩
      exact mirror_mem_records hr'

end Comparison

namespace Baseline

/-- The changes from the second of two classified graphs to the first one are those from the first
to the second, mirrored. -/
theorem changes_mirror (a b : Baseline) (readable : HasCurrentMajor a.schemaVersion)
    (readable' : HasCurrentMajor b.schemaVersion) :
    ∃ records, a.changes b.graph b.classifications [] [] = .ok records ∧
      b.changes a.graph a.classifications [] [] = .ok (records.map ChangeRecord.mirror) := by
  have there := changes_of_fit readable (Aliases.not_misfit_nil a.graph b.graph)
    b.classifications []
  have back := changes_of_fit readable' (Aliases.not_misfit_nil b.graph a.graph)
    a.classifications []
  refine ⟨_, there.1, ?_⟩
  rw [back.1]
  exact congrArg Except.ok Comparison.records_direct

/-- An edge that stems from `whole` in the one graph and from `part` in the other. -/
theorem changes_mirror_renamed_origin :
    ∃ records, (ofLinked .composition "part").changes (linked .composition "whole") [verdictOfA]
        [] [] = .ok records ∧
      (ofLinked .composition "whole").changes (linked .composition "part") [verdictOfA] [] [] =
        .ok (records.map ChangeRecord.mirror) :=
  changes_mirror (ofLinked .composition "part") (ofLinked .composition "whole") readable_one
    readable_one

end Baseline

end TacticalDesign
