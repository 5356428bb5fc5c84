import TacticalDesign.Proofs.Diff.Exactness
import TacticalDesign.Proofs.Graph.Shrinking
/-!
# A graph against what is left of it

Where a graph is compared with a smaller one that lacks the symbols of skipped units only, nothing
was removed and nothing added, and what remains did not lose members or edges: the records are about
edges that came in the place of others, and about roles.
-/

namespace TacticalDesign

/-- Two symbols with the same members and the same declaration head, whatever they are called and
wherever they stand. -/
structure Symbol.Alike (s t : Symbol) : Prop where
  fields : s.fields = t.fields
  methods : s.methods = t.methods
  bases : s.bases = t.bases
  kind : s.kind = t.kind
  valueEquality : s.valueEquality = t.valueEquality
  isAbstract : s.isAbstract = t.isAbstract

@[refl]
theorem Symbol.Alike.refl (s : Symbol) : s.Alike s := ⟨rfl, rfl, rfl, rfl, rfl, rfl⟩

namespace StructuralDiff

/-- A difference in which no member differs, the head of the declaration is the same and no edge is
gone. -/
structure LosesNothing (d : StructuralDiff) : Prop where
  fieldsAdded : d.fieldsAdded = []
  fieldsRemoved : d.fieldsRemoved = []
  fieldsChanged : d.fieldsChanged = []
  methodsAdded : d.methodsAdded = []
  methodsRemoved : d.methodsRemoved = []
  methodsChanged : d.methodsChanged = []
  shapeChanged : d.shapeChanged = []
  relationshipsRemoved : d.relationshipsRemoved = []

theorem without_self (names : List String) : without names names = [] :=
  without_eq_nil_iff.mpr fun _ h => h

theorem losesNothing_of_alike {old new : Revision} (alike : old.symbol.Alike new.symbol)
    (edges : ∀ e ∈ old.edges, e ∈ new.edges) : (between old new).LosesNothing := by
  have fieldNames_eq : fieldNames new.symbol = fieldNames old.symbol := by
    rw [fieldNames, fieldNames, alike.fields]
  have methodNames_eq : methodNames new.symbol = methodNames old.symbol := by
    rw [methodNames, methodNames, alike.methods]
  have field?_eq : field? new.symbol = field? old.symbol := by
    ext name : 1
    rw [field?, field?, alike.fields]
  have overloads_eq : overloads new.symbol = overloads old.symbol := by
    ext name : 1
    rw [overloads, overloads, alike.methods]
  have unchanged : ∀ {α : Type} [BEq α] [LawfulBEq α] (names : List String) (value : String → α),
      changedNames names names (fun name => value name == value name) = [] := by
    intro α _ _ names value
    exact changedNames_eq_nil_iff.mpr fun name _ _ => beq_self_eq_true (value name)
  have shape : shapeChanges old.symbol new.symbol = [] :=
    shapeChanges_eq_nil_iff.mpr ⟨alike.kind, alike.bases, alike.valueEquality, alike.isAbstract⟩
  simp only [between, fieldNames_eq, methodNames_eq, field?_eq, overloads_eq]
  exact ⟨without_self _, without_self _, unchanged _ _, without_self _, without_self _,
    unchanged _ _, shape, without_eq_nil_iff.mpr edges⟩

end StructuralDiff

namespace Comparison

variable {c : Comparison} {keep : Symbol → Bool} {prior current : List Classification}

/-- The later graph is what is left of the earlier one: of the symbols some are kept, the others are
those of skipped units, and both graphs have the edges that their symbols give rise to. -/
structure Remains (c : Comparison) (keep : Symbol → Bool) : Prop where
  aliases : c.aliases = []
  symbols : c.new.symbols = c.old.symbols.filter keep
  skipped : ∀ s ∈ c.old.symbols, keep s = false → s.originPath ∈ c.skippedPaths
  oldDerived : c.old.Derived
  newDerived : c.new.Derived

namespace Remains

theorem target_eq (h : c.Remains keep) (id : String) : c.target id = id := by
  rw [target, h.aliases, Aliases.target_nil]

theorem fit (h : c.Remains keep) : ¬c.aliases.Misfit c.old c.new := by
  rw [h.aliases]
  exact Aliases.not_misfit_nil _ _

theorem mem_ids_iff (h : c.Remains keep) {s : Symbol} (hs : s ∈ c.old.symbols) :
    s.id ∈ c.new.ids ↔ keep s = true := by
  constructor
  · intro inside
    obtain ⟨t, ht, same⟩ := List.mem_map.mp inside
    rw [h.symbols] at ht
    rw [← SymbolGraph.eq_of_id_eq (List.mem_of_mem_filter ht) hs same]
    exact (List.mem_filter.mp ht).2
  · intro kept
    refine SymbolGraph.mem_ids_of_mem ?_
    rw [h.symbols]
    exact List.mem_filter.mpr ⟨hs, kept⟩

end Remains

end Comparison

end TacticalDesign
