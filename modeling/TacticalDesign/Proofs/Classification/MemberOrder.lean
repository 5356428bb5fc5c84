import TacticalDesign.Proofs.Classification.Locality
import TacticalDesign.Proofs.Graph.MemberOrder
/-!
# Rules do not read the order of members

No built-in rule scores a symbol by the order of its members or of those of other symbols. So
symbols are classified alike, in whatever order their members are declared.
-/

namespace TacticalDesign

namespace SymbolGraph

namespace Reorders

variable {g g' : SymbolGraph} (h : g.Reorders g') {s t : Symbol} (st : s.Reorders t)

include h

theorem isEmpty_incomingOf (id : String) (kind : RelationshipKind) :
    (g.incomingOf id kind).isEmpty = (g'.incomingOf id kind).isEmpty :=
  isEmpty_congr (h.mem_incomingOf_iff id kind)

theorem isEmpty_outgoingOf (id : String) (kind : RelationshipKind) :
    (g.outgoingOf id kind).isEmpty = (g'.outgoingOf id kind).isEmpty :=
  isEmpty_congr (h.mem_outgoingOf_iff id kind)

include st

theorem isAggregateShaped_eq : g.isAggregateShaped s = g'.isAggregateShaped t := by
  simp only [isAggregateShaped, st.hasIdentity_eq, st.isInterfaceLike_eq, st.id,
    h.isEmpty_incomingOf, h.isEmpty_outgoingOf, st.behavioralMethods_perm.isEmpty_eq]

/-! ## What a repository manages -/

theorem methodTargets_perm : (g.methodTargets s).Perm (g'.methodTargets t) := by
  have identified : (fun id => (g.get? id).any (·.hasIdentity)) =
      fun id => (g'.get? id).any (·.hasIdentity) :=
    funext fun id => any_eq_of_rel (h.get?_rel id) fun xy => xy.hasIdentity_eq
  unfold methodTargets
  simp only [h.methodReferences_eq st, identified]
  exact (st.methods.filter _).flatMap_right _

theorem nameTargets_eq : g.nameTargets s = g'.nameTargets t := by
  simp only [nameTargets, h.lookup_eq st, st.name, st.id]

theorem repositoryTargets_eq : g.repositoryTargets s = g'.repositoryTargets t := by
  refine textSet_congr fun id => ?_
  rw [List.mem_append, List.mem_append, (h.methodTargets_perm st).mem_iff, h.nameTargets_eq st]

end Reorders

end SymbolGraph

namespace RuleCatalog

section Members

variable {s t : Symbol} (st : s.Reorders t)

include st

theorem baseEndsWith_eq : baseEndsWith s = baseEndsWith t := by
  funext suffixes
  rw [baseEndsWith, baseEndsWith, st.bases]

theorem isEventShaped_eq : isEventShaped s = isEventShaped t := by
  rw [isEventShaped, isEventShaped, st.nameEndsWith_eq, hasTimestamp, hasTimestamp,
    st.fields.perm.any_eq]

theorem isRepositoryShaped_eq : isRepositoryShaped s = isRepositoryShaped t := by
  rw [isRepositoryShaped, isRepositoryShaped, st.nameEndsWith_eq]

end Members

end RuleCatalog

/-! ## Rules -/

namespace SymbolGraph

namespace Reorders

open RuleCatalog

variable {g g' : SymbolGraph} (h : g.Reorders g') {s t : Symbol} (st : s.Reorders t)

include h st

theorem ownsChildrenWithBehaviour_eq :
    ownsChildrenWithBehaviour s g = ownsChildrenWithBehaviour t g' := by
  simp only [ownsChildrenWithBehaviour, st.hasIdentity_eq, st.id, h.isEmpty_outgoingOf,
    st.behavioralMethods_perm.isEmpty_eq]

theorem unownedWithBehaviour_eq : unownedWithBehaviour s g = unownedWithBehaviour t g' := by
  simp only [unownedWithBehaviour, h.isAggregateShaped_eq st,
    st.behavioralMethods_perm.length_eq]

theorem managedByRepository_eq : managedByRepository s g = managedByRepository t g' := by
  unfold managedByRepository
  rw [st.hasIdentity_eq, st.id]
  congr 1
  refine any_eq_of_forall₂ h.symbols fun xy => ?_
  rw [xy.id, isRepositoryShaped_eq xy, h.repositoryTargets_eq xy]

theorem referencedByIdentity_eq : referencedByIdentity s g = referencedByIdentity t g' := by
  have sources : ∀ id, textSet ((g.incomingOf id .identity).map (·.sourceId)) =
      textSet ((g'.incomingOf id .identity).map (·.sourceId)) := by
    intro id
    refine textSet_congr fun source => ?_
    simp only [List.mem_map, h.mem_incomingOf_iff]
  simp only [referencedByIdentity, st.hasIdentity_eq, st.id, h.isEmpty_incomingOf, sources]

theorem composedIdentity_eq : composedIdentity s g = composedIdentity t g' := by
  simp only [composedIdentity, st.hasIdentity_eq, st.id, h.isEmpty_incomingOf]

theorem spansAggregates_eq : spansAggregates s g = spansAggregates t g' := by
  have aggregates : (fun id => (g.get? id).any g.isAggregateShaped) =
      fun id => (g'.get? id).any g'.isAggregateShaped :=
    funext fun id => any_eq_of_rel (h.get?_rel id) fun xy => h.isAggregateShaped_eq xy
  have references : (s.behavioralMethods.flatMap (g.methodReferences s)).Perm
      (t.behavioralMethods.flatMap (g'.methodReferences t)) := by
    rw [h.methodReferences_eq st]
    exact st.behavioralMethods_perm.flatMap_right _
  have targets : textSet ((s.behavioralMethods.flatMap (g.methodReferences s)).filter
      fun id => (g'.get? id).any g'.isAggregateShaped) =
      textSet ((t.behavioralMethods.flatMap (g'.methodReferences t)).filter
        fun id => (g'.get? id).any g'.isAggregateShaped) :=
    textSet_congr fun id => (references.filter _).mem_iff
  simp only [spansAggregates, st.isStateless_eq, st.isInterfaceLike_eq, aggregates, targets]

theorem collectionLikeInterface_eq :
    collectionLikeInterface s g = collectionLikeInterface t g' := by
  simp only [collectionLikeInterface, st.isInterfaceLike_eq, (st.methods.filter _).length_eq,
    h.repositoryTargets_eq st]

theorem outboundInterface_eq : outboundInterface s g = outboundInterface t g' := by
  simp only [outboundInterface, st.isInterfaceLike_eq, isRepositoryShaped_eq st,
    h.repositoryTargets_eq st]

theorem createsDomainObjects_eq : createsDomainObjects s g = createsDomainObjects t g' := by
  simp only [createsDomainObjects, st.hasIdentity_eq, h.resolveType_eq st, st.methods.any_eq]

theorem predicate_eq : ∀ r ∈ rules, r.predicate s g = r.predicate t g' := by
  simp only [rules, List.forall_mem_cons, flag, graded, h.ownsChildrenWithBehaviour_eq st,
    h.unownedWithBehaviour_eq st, h.managedByRepository_eq st, h.referencedByIdentity_eq st,
    h.composedIdentity_eq st, h.spansAggregates_eq st, h.collectionLikeInterface_eq st,
    h.outboundInterface_eq st, h.createsDomainObjects_eq st, List.not_mem_nil, false_imp_iff,
    implies_true]
  -- The other rules do not read the graph.
  simp only [extendsAggregateBase, identityWithMutableState, extendsEntityBase,
    immutableWithValueEquality, immutableWithoutIdentity, valueLikeName, extendsValueBase,
    serviceName, eventName, eventTimestamp, extendsEventBase, repositoryName, portName,
    factoryName, specificationName, satisfiedByMethod, policyName, statelessDecision,
    noIdentityNoState, identityOrState, hasTimestamp, baseEndsWith_eq st, isEventShaped_eq st,
    isRepositoryShaped_eq st, st.name, st.hasIdentity_eq, st.ownsIdentityField_eq,
    st.allFieldsImmutable_eq, st.isInterfaceLike_eq, st.nameEndsWith_eq, st.isStateless_eq,
    st.valueEquality, st.isAbstract, st.fields.perm.any_eq, st.methods.any_eq,
    st.behavioralMethods_perm.any_eq, and_self]

theorem score_eq {r : Rule} (hr : r ∈ rules) : r.score s g = r.score t g' := by
  rw [Rule.score, Rule.score, h.predicate_eq st r hr, st.id]

end Reorders

end SymbolGraph

/-! ## Classifications -/

namespace Classification

variable {g g' : SymbolGraph} {config : ScanConfig} {registry : RuleRegistry}

theorem ofSymbol_eq_of_reorders (h : g.Reorders g') (catalog : registry.OfCatalog) {s t : Symbol}
    (st : s.Reorders t) : ofSymbol registry config g s = ofSymbol registry config g' t := by
  have ballots : Ballot.cast s g registry.rules = Ballot.cast t g' registry.rules := by
    apply Ballot.cast_congr
    intro r hr
    obtain ⟨q, hq, reweighs⟩ := catalog.rules r hr
    rw [reweighs.score_eq, reweighs.score_eq, h.score_eq st hq]
  rw [ofSymbol, ofSymbol, Verdict.of, Verdict.of, ballots, st.id]

theorem ofGraph_eq_of_reorders (h : g.Reorders g') (catalog : registry.OfCatalog) :
    ofGraph registry config g = ofGraph registry config g' := by
  have symbols : ∀ {ss ts : List Symbol}, List.Forall₂ Symbol.Reorders ss ts →
      ofSymbols registry config g ss = ofSymbols registry config g' ts := by
    intro ss ts related
    induction related with
    | nil => rfl
    | cons st _ ih => rw [ofSymbols, ofSymbols, ofSymbol_eq_of_reorders h catalog st, ih]
  exact symbols h.symbols

end Classification

end TacticalDesign
