import TacticalDesign.Proofs.Diff.SameGraph
import TacticalDesign.Proofs.Graph.MemberOrder
/-!
# Members in another order, compared

Overloads are put in the order of their signatures before they are compared, and overloads with one
signature stay in the order in which they are declared. So between two orders of members a
comparison tells of methods that share name and signature and come in another order, and of nothing
else.
-/

namespace TacticalDesign

/-- Methods of one name and one signature come in the same order in both symbols. -/
def Symbol.KeepsOverloads (s t : Symbol) : Prop :=
  ∀ name signature : String,
    s.methods.filter (fun m => m.name = name ∧ m.signature = signature) =
      t.methods.filter (fun m => m.name = name ∧ m.signature = signature)

theorem Symbol.keepsOverloads_of_distinct {s t : Symbol} (perm : s.methods.Perm t.methods)
    (distinct : s.methods.Pairwise fun a b => a.name = b.name → a.signature ≠ b.signature) :
    s.KeepsOverloads t := by
  have distinct' : t.methods.Pairwise fun a b => a.name = b.name → a.signature ≠ b.signature :=
    distinct.perm perm fun apart same => (apart same.symm).symm
  intro name signature
  have alone : ∀ ms : List MethodDeclaration,
      (ms.Pairwise fun a b => a.name = b.name → a.signature ≠ b.signature) →
        (ms.filter fun m => m.name = name ∧ m.signature = signature).Pairwise fun _ _ => False := by
    intro ms apart
    refine (apart.filter _).imp_of_mem fun ha hb apart => ?_
    obtain ⟨-, ha⟩ := List.mem_filter.mp ha
    obtain ⟨-, hb⟩ := List.mem_filter.mp hb
    rw [decide_eq_true_eq] at ha hb
    exact apart (ha.1.trans hb.1.symm) (ha.2.trans hb.2.symm)
  exact (perm.filter _).eq_of_pairwise (fun _ _ _ _ h => h.elim) (alone _ distinct)
    (alone _ distinct')

namespace StructuralDiff

variable {s t : Symbol}

theorem overloads_eq_iff_keeps :
    (∀ name, overloads s name = overloads t name) ↔ s.KeepsOverloads t := by
  refine forall_congr' fun name => ?_
  rw [overloads, overloads, mergeSort_eq_iff MethodDeclaration.signature]
  refine forall_congr' fun signature => ?_
  simp only [List.filter_filter, Bool.decide_and, Bool.and_comm, beq_eq_decide]

def reordered (s t : Symbol) : List String :=
  changedNames (methodNames s) (methodNames t) fun name => overloads s name == overloads t name

section Reorders

variable (h : s.Reorders t)

include h

theorem field?_eq_of_reorders (name : String) : field? s name = field? t name := by
  simp only [field?, ← List.head?_filter, List.filter_reverse, beq_eq_decide, h.fields.namesakes]

theorem mem_methodNames_of_reorders (name : String) :
    name ∈ methodNames s ↔ name ∈ methodNames t :=
  (h.methods.map _).mem_iff

theorem reordered_eq_nil_iff : reordered s t = [] ↔ s.KeepsOverloads t := by
  have names := mem_methodNames_of_reorders h
  rw [← overloads_eq_iff_keeps, ← lists_eq_nil_iff [] (fun _ => mem_methodNames_iff)
    fun _ => mem_methodNames_iff]
  have no_new := without_eq_nil_iff.mpr fun name => (names name).mpr
  have no_old := without_eq_nil_iff.mpr fun name => (names name).mp
  exact ⟨fun same => ⟨no_new, no_old, same⟩, fun ⟨_, _, same⟩ => same⟩

theorem isEmpty_reordered_iff :
    ({ methodsChanged := reordered s t } : StructuralDiff).isEmpty = true ↔
      s.KeepsOverloads t := by
  rw [isEmpty_eq_true_iff, ← reordered_eq_nil_iff h]
  simp

end Reorders

/-- Between two orders of members with the same edges and the same gist nothing but methods
differs. -/
theorem between_of_reorders {old new : Revision} (related : old.symbol.Reorders new.symbol)
    (edges : ∀ e, e ∈ old.edges ↔ e ∈ new.edges)
    (gist : old.classification.map (·.gist) = new.classification.map (·.gist)) :
    between old new = { methodsChanged := reordered old.symbol new.symbol } := by
  -- The later revision with its members in the order of the earlier one does not differ.
  let restored : Symbol :=
    { new.symbol with fields := old.symbol.fields, methods := old.symbol.methods }
  have alike : old.symbol.Alike restored :=
    ⟨rfl, rfl, related.bases, related.kind, related.valueEquality, related.isAbstract⟩
  have nothing : between old { new with symbol := restored } = {} :=
    eq_empty_of_isEmpty (isEmpty_of_alike alike edges gist)
  obtain ⟨no_field, lost_field, same_fields⟩ := (lists_eq_nil_iff none
    (fun _ => mem_fieldNames_iff) fun _ => mem_fieldNames_iff).mpr (field?_eq_of_reorders related)
  have names := mem_methodNames_of_reorders related
  calc between old new
      _ = { between old { new with symbol := restored } with
            fieldsAdded := without (fieldNames new.symbol) (fieldNames old.symbol)
            fieldsRemoved := without (fieldNames old.symbol) (fieldNames new.symbol)
            fieldsChanged := changedNames (fieldNames old.symbol) (fieldNames new.symbol)
              fun name => field? old.symbol name == field? new.symbol name
            methodsAdded := without (methodNames new.symbol) (methodNames old.symbol)
            methodsRemoved := without (methodNames old.symbol) (methodNames new.symbol)
            methodsChanged := reordered old.symbol new.symbol } := rfl
      _ = { methodsChanged := reordered old.symbol new.symbol } := by
        rw [nothing, no_field, lost_field, same_fields,
          without_eq_nil_iff.mpr fun name => (names name).mpr,
          without_eq_nil_iff.mpr fun name => (names name).mp]

end StructuralDiff

namespace Comparison

/-- Two graphs that differ in the order of members at most, compared without aliases. -/
structure Reorders (c : Comparison) : Prop where
  aliases : c.aliases = []
  graphs : c.old.Reorders c.new

def reordering (prior current : List Classification) (s t : Symbol) : ChangeRecord :=
  { symbolId := t.id
    kind := .modified
    prior := Classification.of? prior s.id
    current := Classification.of? current t.id
    diff := some { methodsChanged := StructuralDiff.reordered s t } }

namespace Reorders

variable {c : Comparison} (h : c.Reorders) {s t : Symbol} {prior current : List Classification}

include h

theorem target_eq (id : String) : c.target id = id := target_of_bare h.aliases id

theorem unverified_eq_nil : c.unverified = [] :=
  unverified_of_bare h.aliases fun _ hid => h.graphs.ids_eq ▸ hid

theorem matchedIds_eq : c.matchedIds = c.new.ids :=
  (matchedIds_of_bare h.aliases).trans h.graphs.ids_eq

theorem mem_facts_iff (id : String) (fact : EdgeFact) :
    fact ∈ c.oldFacts id ↔ fact ∈ c.newFacts id := by
  simp only [mem_oldFacts, mem_newFacts, h.unverified_eq_nil, h.target_eq,
    h.graphs.mem_relationships_iff, List.not_mem_nil, not_false_eq_true, true_and]

variable (agree : Classification.Agree prior current)

include agree

theorem diffOf_eq (st : s.Reorders t) :
    c.diffOf prior current s t = { methodsChanged := StructuralDiff.reordered s t } := by
  have edges : ∀ text, text ∈ c.oldEdges s.id ↔ text ∈ c.newEdges t.id := by
    intro text
    simp only [oldEdges_eq, newEdges_eq, List.mem_map, h.mem_facts_iff, st.id]
  exact StructuralDiff.between_of_reorders st edges (st.id ▸ agree s.id)

theorem differs_iff (st : s.Reorders t) :
    ((c.diffOf prior current s t).isEmpty && t.id == s.id) = false ↔ ¬s.KeepsOverloads t := by
  rw [h.diffOf_eq agree st, ← StructuralDiff.isEmpty_reordered_iff st, st.id, beq_self_eq_true,
    Bool.and_true, Bool.not_eq_true]

theorem modification_eq (st : s.Reorders t) :
    c.modification prior current s t = reordering prior current s t := by
  rw [modification, h.diffOf_eq agree st, if_pos st.id.symm, reordering]

theorem mem_records_iff {r : ChangeRecord} :
    r ∈ c.records prior current ↔ ∃ s ∈ c.old.symbols, ∃ t ∈ c.new.symbols, s.id = t.id ∧
      ¬s.KeepsOverloads t ∧ reordering prior current s t = r := by
  rw [Comparison.mem_records_iff]
  constructor
  · rintro (⟨s, hs, gone, -⟩ | ⟨t, ht, new, -⟩ | ⟨s, hs, t, ht, leads, differs, rfl⟩)
    · rw [h.target_eq, ← h.graphs.ids_eq] at gone
      exact absurd (SymbolGraph.mem_ids_of_mem hs) gone
    · rw [h.matchedIds_eq] at new
      exact absurd (SymbolGraph.mem_ids_of_mem ht) new
    · have same : s.id = t.id := (h.target_eq s.id).symm.trans leads
      have st := h.graphs.of_id_eq hs ht same
      exact ⟨s, hs, t, ht, same, (h.differs_iff agree st).mp differs,
        (h.modification_eq agree st).symm⟩
  · rintro ⟨s, hs, t, ht, same, reordered, rfl⟩
    have st := h.graphs.of_id_eq hs ht same
    exact Or.inr (Or.inr ⟨s, hs, t, ht, (h.target_eq s.id).trans same,
      (h.differs_iff agree st).mpr reordered, h.modification_eq agree st⟩)

end Reorders

end Comparison

end TacticalDesign
