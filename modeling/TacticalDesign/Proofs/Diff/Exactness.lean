import TacticalDesign.Proofs.Diff.Edges
import TacticalDesign.Proofs.Diff.Members
import TacticalDesign.Proofs.Diff.Records
/-!
# Change records miss nothing and invent nothing

A baseline symbol and its match have no record exactly when nothing that a comparison looks at
differs between them, and a record leads from the one to the other. This needs members and edges
that can be told apart: a colon in the kind of an edge can hide a change.
-/

namespace TacticalDesign

namespace StructuralDiff

theorem isEmpty_eq_true_iff {d : StructuralDiff} :
    d.isEmpty = true ↔
      (d.fieldsAdded = [] ∧ d.fieldsRemoved = [] ∧ d.fieldsChanged = []) ∧
      (d.methodsAdded = [] ∧ d.methodsRemoved = [] ∧ d.methodsChanged = []) ∧
      (d.relationshipsAdded = [] ∧ d.relationshipsRemoved = []) ∧ d.shapeChanged = [] ∧
      (d.evidenceAdded = [] ∧ d.evidenceRemoved = []) ∧ d.roleChanged = false ∧
      d.confidenceChanged = false := by
  simp [isEmpty, nameLists, flags, and_assoc]

end StructuralDiff

namespace Comparison

open StructuralDiff

variable {c : Comparison} {prior current : List Classification} {s t : Symbol}

/-! ## The record of a match -/

def diffOf (c : Comparison) (prior current : List Classification) (s t : Symbol) : StructuralDiff :=
  .between ⟨s, c.oldEdges s.id, Classification.of? prior s.id⟩
    ⟨t, c.newEdges t.id, Classification.of? current t.id⟩

theorem recordOf_of_match (ht : t ∈ c.new.symbols) (leads : c.target s.id = t.id) :
    c.recordOf prior current s =
      if (c.diffOf prior current s t).isEmpty && t.id == s.id then none
      else some {
        symbolId := t.id
        kind := .modified
        prior := Classification.of? prior s.id
        current := Classification.of? current t.id
        diff := some (c.diffOf prior current s t)
        priorSymbolId := if t.id = s.id then none else some s.id } := by
  have found : c.new.get? t.id = some t := SymbolGraph.get?_iff.mpr ⟨ht, rfl⟩
  simp only [recordOf, leads, found]
  rfl

def modification (c : Comparison) (prior current : List Classification) (s t : Symbol) :
    ChangeRecord :=
  { symbolId := t.id
    kind := .modified
    prior := Classification.of? prior s.id
    current := Classification.of? current t.id
    diff := some (c.diffOf prior current s t)
    priorSymbolId := if t.id = s.id then none else some s.id }

/-- A record is the removal of a baseline symbol without a match, the addition of a current symbol
that nothing stands for, or the modification of a match with a difference or another id. -/
theorem mem_records_iff {r : ChangeRecord} :
    r ∈ c.records prior current ↔
      (∃ s ∈ c.old.symbols, c.target s.id ∉ c.new.ids ∧ s.originPath ∉ c.skippedPaths ∧
          removal prior s = r) ∨
        (∃ t ∈ c.new.symbols, t.id ∉ c.matchedIds ∧ addition current t = r) ∨
          ∃ s ∈ c.old.symbols, ∃ t ∈ c.new.symbols, c.target s.id = t.id ∧
            ((c.diffOf prior current s t).isEmpty && t.id == s.id) = false ∧
              c.modification prior current s t = r := by
  rw [mem_records, mem_unordered, mem_addedRecords]
  constructor
  · rintro (⟨s, hs, verified, recorded⟩ | added)
    · by_cases matched : c.target s.id ∈ c.new.ids
      · obtain ⟨t, ht, leads⟩ := List.mem_map.mp matched
        rw [recordOf_of_match ht leads.symm] at recorded
        split at recorded
        · cases recorded
        · rename_i differs
          exact Or.inr (Or.inr ⟨s, hs, t, ht, leads.symm, Bool.eq_false_iff.mpr differs,
            Option.some.inj recorded⟩)
      · rw [recordOf_of_unmatched matched] at recorded
        rw [← Bool.not_eq_true, isUnverified_iff] at verified
        exact Or.inl ⟨s, hs, matched, fun skipped => verified ⟨skipped, matched⟩,
          Option.some.inj recorded⟩
    · exact Or.inr (Or.inl added)
  · rintro (⟨s, hs, unmatched, unskipped, rfl⟩ | added | ⟨s, hs, t, ht, leads, differs, rfl⟩)
    · refine Or.inl ⟨s, hs, ?_, recordOf_of_unmatched unmatched⟩
      rw [← Bool.not_eq_true, isUnverified_iff]
      exact fun h => unskipped h.1
    · exact Or.inr added
    · refine Or.inl ⟨s, hs, ?_, ?_⟩
      · rw [← Bool.not_eq_true, isUnverified_iff]
        exact fun h => h.2 (leads ▸ SymbolGraph.mem_ids_of_mem ht)
      · rw [recordOf_of_match ht leads, differs]
        rfl

/-- The records about a current symbol that a baseline symbol stands for are the record of that
baseline symbol, if it has one. -/
theorem mem_records_iff_recordOf (fit : ¬c.aliases.Misfit c.old c.new) (hs : s ∈ c.old.symbols)
    (ht : t ∈ c.new.symbols) (leads : c.target s.id = t.id) {r : ChangeRecord} :
    r ∈ c.records prior current ∧ r.symbolId = t.id ↔ c.recordOf prior current s = some r := by
  have matched : c.target s.id ∈ c.new.ids := leads ▸ SymbolGraph.mem_ids_of_mem ht
  constructor
  · rintro ⟨hr, about⟩
    rcases mem_unordered.mp (mem_records.mp hr) with ⟨o, ho, -, hor⟩ | hadded
    · have targets : c.target o.id = c.target s.id := by
        rw [← symbolId_of_recordOf fit hor, about, leads]
      have ids := Aliases.target_injective fit (SymbolGraph.mem_ids_of_mem ho)
        (SymbolGraph.mem_ids_of_mem hs) targets
      exact SymbolGraph.eq_of_id_eq ho hs ids ▸ hor
    · obtain ⟨t', -, unmatched, rfl⟩ := mem_addedRecords.mp hadded
      have e : t'.id = c.target s.id := about.trans leads.symm
      exact absurd (e ▸ target_mem_matchedIds hs) unmatched
  · intro hr
    have verified : c.isUnverified s = false := by
      rw [← Bool.not_eq_true, isUnverified_iff]
      exact fun h => h.2 matched
    exact ⟨mem_records.mpr (mem_unordered.mpr (Or.inl ⟨s, hs, verified, hr⟩)),
      (symbolId_of_recordOf fit hr).trans leads⟩

theorem diff_of_mem_records (fit : ¬c.aliases.Misfit c.old c.new) (hs : s ∈ c.old.symbols)
    (ht : t ∈ c.new.symbols) (leads : c.target s.id = t.id) {r : ChangeRecord}
    (hr : r ∈ c.records prior current) (about : r.symbolId = t.id) :
    r.diff = some (c.diffOf prior current s t) := by
  have h := (mem_records_iff_recordOf fit hs ht leads).mp ⟨hr, about⟩
  rw [recordOf_of_match ht leads] at h
  split at h
  · cases h
  · exact (Option.some.inj h) ▸ rfl

theorem no_record_iff (fit : ¬c.aliases.Misfit c.old c.new) (hs : s ∈ c.old.symbols)
    (ht : t ∈ c.new.symbols) (leads : c.target s.id = t.id) (same : t.id = s.id) :
    (∀ r ∈ c.records prior current, r.symbolId ≠ s.id) ↔
      (c.diffOf prior current s t).isEmpty = true := by
  have none_iff : (∀ r ∈ c.records prior current, r.symbolId ≠ s.id) ↔
      c.recordOf prior current s = none := by
    rw [Option.eq_none_iff_forall_ne_some, ← same]
    refine forall_congr' fun r => ?_
    rw [Ne, ← not_and, mem_records_iff_recordOf fit hs ht leads]
  rw [none_iff, recordOf_of_match ht leads]
  simp [same]

/-! ## What a record says -/

/-- Nothing that a comparison looks at differs between a baseline symbol and its match. -/
structure Unchanged (c : Comparison) (s t : Symbol) (before after : Classification) : Prop where
  fields : ∀ f, f ∈ s.fields ↔ f ∈ t.fields
  methods : s.methods.Perm t.methods
  kind : s.kind = t.kind
  bases : s.bases = t.bases
  valueEquality : s.valueEquality = t.valueEquality
  isAbstract : s.isAbstract = t.isAbstract
  edges : ∀ e, e ∈ c.oldFacts s.id ↔ e ∈ c.newFacts t.id
  role : before.role = after.role
  confidence : before.confidence = after.confidence
  evidence : ∀ rule, rule ∈ before.evidence ↔ rule ∈ after.evidence

/-- A difference leads from a baseline symbol to its match: taking out what it lists as removed and
putting in what it lists as added makes the names and edges of the one those of the other, and what
it does not list as changed under a common name is the same in both. -/
structure Leads (c : Comparison) (s t : Symbol) (d : StructuralDiff) : Prop where
  fieldSet : ∀ name, name ∈ fieldNames t ↔
    name ∈ fieldNames s ∧ name ∉ d.fieldsRemoved ∨ name ∈ d.fieldsAdded
  methodSet : ∀ name, name ∈ methodNames t ↔
    name ∈ methodNames s ∧ name ∉ d.methodsRemoved ∨ name ∈ d.methodsAdded
  edgeSet : ∀ e : EdgeFact, e.Legible → (e ∈ c.newFacts t.id ↔
    e ∈ c.oldFacts s.id ∧ e.text ∉ d.relationshipsRemoved ∨ e.text ∈ d.relationshipsAdded)
  commonFields : ∀ f, f.name ∈ fieldNames s → f.name ∈ fieldNames t → f.name ∉ d.fieldsChanged →
    (f ∈ s.fields ↔ f ∈ t.fields)
  commonMethods : ∀ name ∈ methodNames s, name ∈ methodNames t → name ∉ d.methodsChanged →
    (s.methods.filter (·.name == name)).Perm (t.methods.filter (·.name == name))

end Comparison

structure SymbolGraph.Plain (g : SymbolGraph) : Prop where
  symbols : ∀ s ∈ g.symbols, s.Unambiguous
  edges : ∀ e ∈ g.relationships, e.Legible

namespace Comparison

open StructuralDiff

variable {c : Comparison} {prior current : List Classification} {s t : Symbol}

/-- Where texts stand for edges, no text is listed exactly when the edges are the same. -/
theorem edges_unlisted_iff (old : c.old.Plain) (new : c.new.Plain) :
    (without (c.newEdges t.id) (c.oldEdges s.id) = [] ∧
      without (c.oldEdges s.id) (c.newEdges t.id) = []) ↔
      ∀ e, e ∈ c.oldFacts s.id ↔ e ∈ c.newFacts t.id := by
  rw [without_eq_nil_iff, without_eq_nil_iff, oldEdges_eq, newEdges_eq]
  have oldLegible : ∀ e ∈ c.oldFacts s.id, e.Legible :=
    fun _ => legible_of_mem_oldFacts old.edges s.id
  have newLegible : ∀ e ∈ c.newFacts t.id, e.Legible :=
    fun _ => legible_of_mem_newFacts new.edges t.id
  constructor
  · rintro ⟨no_new, no_old⟩ e
    constructor
    · intro he
      exact (EdgeFact.text_mem_iff newLegible (oldLegible e he)).mp
        (no_old _ (List.mem_map_of_mem he))
    · intro he
      exact (EdgeFact.text_mem_iff oldLegible (newLegible e he)).mp
        (no_new _ (List.mem_map_of_mem he))
  · intro same
    constructor <;> intro text htext <;> obtain ⟨e, he, rfl⟩ := List.mem_map.mp htext
    · exact List.mem_map_of_mem ((same e).mpr he)
    · exact List.mem_map_of_mem ((same e).mp he)

/-- Role and evidence are unlisted exactly when both are the same: evidence counts only under an
unchanged role. -/
theorem evidence_unlisted_iff {before after : Classification} :
    ((without (comparableEvidence (some before) (some after)).2
          (comparableEvidence (some before) (some after)).1 = [] ∧
        without (comparableEvidence (some before) (some after)).1
          (comparableEvidence (some before) (some after)).2 = []) ∧
      before.role = after.role) ↔
      before.role = after.role ∧ ∀ rule, rule ∈ before.evidence ↔ rule ∈ after.evidence := by
  rw [and_comm]
  refine and_congr_right fun same => ?_
  simp only [comparableEvidence, same, if_true, without_eq_nil_iff]
  constructor
  · rintro ⟨no_new, no_old⟩ rule
    exact ⟨no_old rule, no_new rule⟩
  · intro h
    exact ⟨fun rule => (h rule).mpr, fun rule => (h rule).mp⟩

theorem diffOf_isEmpty_iff (old : c.old.Plain) (new : c.new.Plain) (hs : s ∈ c.old.symbols)
    (ht : t ∈ c.new.symbols) {before after : Classification}
    (hbefore : Classification.of? prior s.id = some before)
    (hafter : Classification.of? current t.id = some after) :
    (c.diffOf prior current s t).isEmpty = true ↔ c.Unchanged s t before after := by
  have hs := old.symbols s hs
  have ht := new.symbols t ht
  have flag : ∀ {α : Type} [BEq α] [LawfulBEq α] (a b : α),
      (some a != some b) = false ↔ a = b := by
    intro α _ _ a b
    rw [bne_eq_false_iff_eq, Option.some_inj]
  rw [isEmpty_eq_true_iff, diffOf, hbefore, hafter]
  simp only [between, Option.map_some, flag]
  rw [fields_unlisted_iff hs ht, methods_unlisted_iff hs, edges_unlisted_iff old new,
    shapeChanges_eq_nil_iff]
  constructor
  · rintro ⟨fields, methods, edges, ⟨kind, bases, valueEquality, isAbstract⟩, evidence, role,
      confidence⟩
    exact ⟨fields, methods, kind, bases, valueEquality, isAbstract, edges, role, confidence,
      (evidence_unlisted_iff.mp ⟨evidence, role⟩).2⟩
  · intro h
    obtain ⟨evidence, role⟩ := evidence_unlisted_iff.mpr ⟨h.role, h.evidence⟩
    exact ⟨h.fields, h.methods, h.edges, ⟨h.kind, h.bases, h.valueEquality, h.isAbstract⟩,
      evidence, role, h.confidence⟩

theorem leads_diffOf (old : c.old.Plain) (new : c.new.Plain) (hs : s ∈ c.old.symbols)
    (ht : t ∈ c.new.symbols) : c.Leads s t (c.diffOf prior current s t) where
  fieldSet _ := mem_iff_of_without
  methodSet _ := mem_iff_of_without
  edgeSet := by
    intro e he
    have oldText := EdgeFact.text_mem_iff (e := e)
      (fun _ => legible_of_mem_oldFacts old.edges s.id) he
    have newText := EdgeFact.text_mem_iff (e := e)
      (fun _ => legible_of_mem_newFacts new.edges t.id) he
    rw [← oldText, ← newText, ← oldEdges_eq, ← newEdges_eq]
    exact mem_iff_of_without
  commonFields := by
    intro f hold hnew unchanged
    have same : field? s f.name = field? t f.name := by
      by_contra differ
      exact unchanged (mem_changedNames.mpr ⟨hold, hnew, by simpa using differ⟩)
    exact (field?_eq_iff (old.symbols s hs) (new.symbols t ht)).mp same f rfl
  commonMethods := by
    intro name hold hnew unchanged
    have same : overloads s name = overloads t name := by
      by_contra differ
      exact unchanged (mem_changedNames.mpr ⟨hold, hnew, by simpa using differ⟩)
    exact (overloads_eq_iff (old.symbols s hs)).mp same

end Comparison

namespace Baseline

/-- A baseline symbol and a current symbol that it stands for under the same id have no record
exactly when nothing about them changed, and the record of any match leads from the baseline symbol
to the current one. -/
theorem changes_exact (b : Baseline) (graph : SymbolGraph) (current : List Classification)
    (aliases : Aliases) (skippedPaths : List String) (readable : HasCurrentMajor b.schemaVersion)
    (fit : ¬aliases.Misfit b.graph graph) (old : b.graph.Plain) (new : graph.Plain) :
    let c : Comparison := ⟨b.graph, graph, aliases, skippedPaths⟩
    ∃ records, b.changes graph current aliases skippedPaths = .ok records ∧
      ∀ s ∈ b.graph.symbols, ∀ t ∈ graph.symbols, aliases.target s.id = t.id →
        (∀ before after, t.id = s.id → Classification.of? b.classifications s.id = some before →
          Classification.of? current t.id = some after →
          ((∀ r ∈ records, r.symbolId ≠ s.id) ↔ c.Unchanged s t before after)) ∧
        ∀ r ∈ records, r.symbolId = t.id → ∃ d, r.diff = some d ∧ c.Leads s t d := by
  intro c
  refine ⟨_, (changes_of_fit readable fit current skippedPaths).1, ?_⟩
  intro s hs t ht leads
  constructor
  · intro before after same hbefore hafter
    rw [Comparison.no_record_iff (c := c) fit hs ht leads same]
    exact Comparison.diffOf_isEmpty_iff (c := c) old new hs ht hbefore hafter
  · intro r hr about
    exact ⟨_, Comparison.diff_of_mem_records (c := c) fit hs ht leads hr about,
      Comparison.leads_diffOf (c := c) old new hs ht⟩

/-! ## An edge under two spellings -/

def bareSymbol (name : String) : Symbol :=
  { id := symbolId "a.java" name, name, qualifiedName := name, nameSpace := "", kind := .classType,
    originPath := "a.java", language := "java" }

def linked (kind : RelationshipKind) (via : String) : SymbolGraph where
  symbols := [bareSymbol "A", bareSymbol "T"]
  relationships := [{ sourceId := "a.java::A", targetId := "a.java::T", kind, via }]
  symbols_ascend := by decide
  edges_inside := by
    rintro e he
    obtain rfl := List.mem_singleton.mp he
    show "a.java::A" ∈ ["a.java::A", "a.java::T"] ∧ "a.java::T" ∈ ["a.java::A", "a.java::T"]
    decide

def verdictOfA : Classification :=
  { symbolId := "a.java::A", role := .entity, confidence := .high, score := .int 1 }

def ofLinked (kind : RelationshipKind) (via : String) : Baseline :=
  ⟨some "1.0", "1", "", linked kind via, [verdictOfA], ""⟩

theorem readable_one : HasCurrentMajor (some "1.0") := ⟨"1.0", rfl, by decide, by decide⟩

theorem unambiguous_of_mem_linked {kind : RelationshipKind} {via : String} {s : Symbol}
    (h : s ∈ (linked kind via).symbols) : s.Unambiguous := by
  have members : s.fields = [] ∧ s.methods = [] := by
    rcases List.mem_pair.mp h with rfl | rfl <;> exact ⟨rfl, rfl⟩
  exact ⟨by rw [members.1]; exact List.nodup_nil, by rw [members.2]; exact List.Pairwise.nil⟩

/-- The origin of an edge changed from `part` to `whole`, so its source has a record. -/
theorem changes_exact_renamed_origin :
    ∃ records, (ofLinked .composition "part").changes (linked .composition "whole") [verdictOfA]
        [] [] = .ok records ∧
      ∃ r ∈ records, r.symbolId = "a.java::A" ∧ ∃ d, r.diff = some d ∧
        Comparison.Leads ⟨linked .composition "part", linked .composition "whole", [], []⟩
          (bareSymbol "A") (bareSymbol "A") d := by
  have plain : ∀ via, ¬['-', '>'] <:+: via.toList → (linked .composition via).Plain := by
    intro via arrow
    refine ⟨fun s => unambiguous_of_mem_linked, fun e he => ?_⟩
    obtain rfl := List.mem_singleton.mp he
    have colon : ':' ∉ "composition".toList := by decide
    exact ⟨colon, arrow⟩
  obtain ⟨records, ran, exactly⟩ := changes_exact (ofLinked .composition "part")
    (linked .composition "whole") [verdictOfA] [] [] readable_one
    (Aliases.not_misfit_nil _ _) (plain "part" (by decide)) (plain "whole" (by decide))
  obtain ⟨unchanged_iff, leads⟩ := exactly (bareSymbol "A") List.mem_cons_self (bareSymbol "A")
    List.mem_cons_self rfl
  refine ⟨records, ran, ?_⟩
  by_contra silent
  have unchanged := (unchanged_iff verdictOfA verdictOfA rfl (by rfl) (by rfl)).mp
    fun r hr about => silent ⟨r, hr, about, leads r hr about⟩
  have edge := (unchanged.edges ⟨"composition", "part", "a.java::T"⟩).mp (by decide)
  exact absurd edge (by decide)

/-- A colon in the kind of an edge hides a change: the edge of kind `composition:a` that stems from
`b` and the one of kind `composition` that stems from `a:b` have one text. -/
theorem colon_in_kind_hides_change :
    let old := linked (.other "composition:a") "b"
    let new := linked .composition "a:b"
    let c : Comparison := ⟨old, new, [], []⟩
    HasCurrentMajor (some "1.0") ∧ ¬Aliases.Misfit [] old new ∧
      (∀ s, s ∈ old.symbols ∨ s ∈ new.symbols → s.Unambiguous) ∧
      (∀ e, e ∈ old.relationships ∨ e ∈ new.relationships → ¬['-', '>'] <:+: e.via.toList) ∧
      (∃ records, (ofLinked (.other "composition:a") "b").changes new [verdictOfA] [] [] =
          .ok records ∧ ∀ r ∈ records, r.symbolId ≠ "a.java::A") ∧
      ¬c.Unchanged (bareSymbol "A") (bareSymbol "A") verdictOfA verdictOfA := by
  intro old new c
  have ran : (ofLinked (.other "composition:a") "b").changes new [verdictOfA] [] [] =
      .ok (c.records [verdictOfA] [verdictOfA]) :=
    (changes_of_fit readable_one (Aliases.not_misfit_nil _ _) [verdictOfA] []).1
  refine ⟨readable_one, Aliases.not_misfit_nil _ _, ?_, ?_, ⟨_, ran, ?_⟩, ?_⟩
  · rintro s (hs | hs)
    · exact unambiguous_of_mem_linked hs
    · exact unambiguous_of_mem_linked hs
  · rintro e (he | he) <;> obtain rfl := List.mem_singleton.mp he <;> decide
  · refine (Comparison.no_record_iff (c := c) (s := bareSymbol "A") (t := bareSymbol "A")
      (Aliases.not_misfit_nil _ _) List.mem_cons_self List.mem_cons_self rfl rfl).mpr ?_
    decide +kernel
  · intro unchanged
    have edge := (unchanged.edges ⟨"composition:a", "b", "a.java::T"⟩).mp (by decide)
    exact absurd edge (by decide)

end Baseline

end TacticalDesign
