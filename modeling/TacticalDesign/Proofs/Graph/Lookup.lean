import TacticalDesign.Proofs.AntiPattern.Ownership
/-!
# Looking symbols up

Rules, detectors and the derivation of edges look symbols up by ids that they read off the graph.
None of these ids leads outside the graph. What a repository manages are other symbols of the graph:
those with identity that its methods mention, and those that its name says, whatever they are.
-/

namespace TacticalDesign

namespace SymbolGraph

variable {g : SymbolGraph} {roles : RoleMap}

structure Resolves (g : SymbolGraph) (roles : RoleMap) : Prop where
  types : ∀ s type, ∀ id ∈ g.resolveType s type, (g.get? id).isSome
  methods : ∀ s m, ∀ id ∈ g.methodReferences s m, (g.get? id).isSome
  targets : ∀ e ∈ g.relationships, (g.get? e.targetId).isSome
  children : ∀ s, ∀ id ∈ AntiPattern.entityChildren g roles s, (g.get? id).isSome
  owners : ∀ s ∈ g.symbols, ∀ id ∈ AntiPattern.owningRoots g roles s, (g.get? id).isSome

theorem get?_isSome {id : String} (h : id ∈ g.ids) : (g.get? id).isSome := by
  rw [Option.isSome_iff_ne_none, Ne, get?_eq_none_iff, not_not]
  exact h

theorem mem_ids_of_methodReferences {s : Symbol} {m : MethodDeclaration} {id : String}
    (h : id ∈ g.methodReferences s m) : id ∈ g.ids := by
  obtain ⟨type, -, ht⟩ := List.mem_flatMap.mp (mem_firstOccurrences.mp h)
  exact mem_ids_of_resolveType ht

theorem mem_ids_of_entityChildren {s : Symbol} {id : String}
    (h : id ∈ AntiPattern.entityChildren g roles s) : id ∈ g.ids := by
  obtain ⟨e, he, rfl⟩ := List.mem_map.mp (List.mem_of_mem_filter (mem_textSet.mp h))
  have inside := List.mem_of_mem_filter (List.mem_of_mem_filter he)
  exact (g.edges_inside e inside).2

theorem resolves (g : SymbolGraph) (roles : RoleMap) : Resolves g roles where
  types := fun _ _ _ h => get?_isSome (mem_ids_of_resolveType h)
  methods := fun _ _ _ h => get?_isSome (mem_ids_of_methodReferences h)
  targets := fun e he => get?_isSome (g.edges_inside e he).2
  children := fun _ _ h => get?_isSome (mem_ids_of_entityChildren h)
  owners := fun _ _ _ h => get?_isSome (AntiPattern.mem_owningRoots.mp h).2.2.mem_ids

/-! ## What a repository manages -/

variable {s t : Symbol} {id : String}

theorem mem_resolveType {type : Option String} : id ∈ g.resolveType s type ↔
    id ≠ s.id ∧ ∃ name ∈ (TypeReference.of type).names, g.lookup name (some s) = some id := by
  simp only [resolveType, mem_firstOccurrences, List.mem_filterMap, Option.filter_eq_some_iff,
    decide_eq_true_eq]
  constructor
  · rintro ⟨name, hname, found, other⟩
    exact ⟨other, name, hname, found⟩
  · rintro ⟨other, name, hname, found⟩
    exact ⟨name, hname, found, other⟩

def MentionedByMethods (g : SymbolGraph) (s t : Symbol) : Prop :=
  ∃ m ∈ s.methods, leadingVerb m.name ∈ repositoryVerbs ∧
    ∃ type ∈ m.parameterTypes.map some ++ [m.returnType],
      ∃ name ∈ (TypeReference.of type).names, g.lookup name (some s) = some t.id

def NamedRepositoryOf (g : SymbolGraph) (s t : Symbol) : Prop :=
  ∃ suffix ∈ ["Repository", "Repo"], ∃ name : String, name ≠ "" ∧ s.name = name ++ suffix ∧
    g.lookup name (some s) = some t.id

theorem nameBefore?_eq_some {suffix name front : String} :
    nameBefore? suffix name = some front ↔ front ≠ "" ∧ name = front ++ suffix := by
  simp only [nameBefore?, Text.endsWith, Option.ite_none_right_eq_some, Bool.and_eq_true,
    List.isSuffixOf_iff_suffix, decide_eq_true_eq, Option.some.injEq]
  constructor
  · rintro ⟨⟨⟨start, ends⟩, longer⟩, rfl⟩
    have length := congrArg List.length ends
    rw [List.length_append] at length
    have taken : name.toList.take (name.toList.length - suffix.toList.length) = start := by
      rw [← ends, List.length_append, Nat.add_sub_cancel, List.take_left]
    rw [taken]
    refine ⟨fun empty => ?_, ?_⟩
    · have none_left : start = [] := by simpa using congrArg String.toList empty
      rw [none_left, List.length_nil] at length
      omega
    · rw [← String.toList_inj, String.toList_append, String.toList_ofList, ends]
  · rintro ⟨some_char, rfl⟩
    have longer : 0 < front.toList.length := by
      rw [List.length_pos_iff]
      exact fun empty => some_char (String.toList_inj.mp empty)
    rw [String.toList_append, List.length_append, Nat.add_sub_cancel, List.take_left,
      String.ofList_toList]
    exact ⟨⟨List.suffix_append _ _, by omega⟩, rfl⟩

theorem mem_methodTargets : id ∈ g.methodTargets s ↔
    id ≠ s.id ∧ ∃ t ∈ g.symbols, t.id = id ∧ t.hasIdentity = true ∧ g.MentionedByMethods s t := by
  simp only [methodTargets, List.mem_flatMap, List.mem_filter, decide_eq_true_eq,
    methodReferences, mem_firstOccurrences, mem_resolveType, Option.any_eq_true, get?_iff]
  constructor
  · rintro ⟨m, ⟨hm, verb⟩, ⟨type, htype, other, name, hname, found⟩, t, ⟨ht, rfl⟩, identity⟩
    exact ⟨other, t, ht, rfl, identity, m, hm, verb, type, htype, name, hname, found⟩
  · rintro ⟨other, t, ht, rfl, identity, m, hm, verb, type, htype, name, hname, found⟩
    exact ⟨m, ⟨hm, verb⟩, ⟨type, htype, other, name, hname, found⟩, t, ⟨ht, rfl⟩, identity⟩

theorem mem_nameTargets : id ∈ g.nameTargets s ↔
    id ≠ s.id ∧ ∃ t ∈ g.symbols, t.id = id ∧ g.NamedRepositoryOf s t := by
  simp only [nameTargets, List.mem_filter, List.mem_filterMap, Option.bind_eq_some_iff,
    decide_eq_true_eq, nameBefore?_eq_some]
  constructor
  · rintro ⟨⟨suffix, hsuffix, name, ⟨some_char, named⟩, found⟩, other⟩
    obtain ⟨t, ht, rfl⟩ := List.mem_map.mp (mem_ids_of_lookup found)
    exact ⟨other, t, ht, rfl, suffix, hsuffix, name, some_char, named, found⟩
  · rintro ⟨other, t, ht, rfl, suffix, hsuffix, name, some_char, named, found⟩
    exact ⟨⟨suffix, hsuffix, name, ⟨some_char, named⟩, found⟩, other⟩

/-- What a repository manages comes in the order of ids. It is what its methods mention, as far as
it has identity, and what its name says. So all of it has identity just when what the name says
has. -/
theorem repository_manages (g : SymbolGraph) (s : Symbol) :
    (g.repositoryTargets s).Pairwise (· < ·) ∧
    (∀ id, id ∈ g.repositoryTargets s ↔ id ≠ s.id ∧ ∃ t ∈ g.symbols, t.id = id ∧
      (t.hasIdentity = true ∧ g.MentionedByMethods s t ∨ g.NamedRepositoryOf s t)) ∧
    ((∀ t ∈ g.symbols, t.id ∈ g.repositoryTargets s → t.hasIdentity = true) ↔
      ∀ t ∈ g.symbols, t.id ≠ s.id → g.NamedRepositoryOf s t → t.hasIdentity = true) := by
  have targets : ∀ id, id ∈ g.repositoryTargets s ↔ id ≠ s.id ∧ ∃ t ∈ g.symbols, t.id = id ∧
      (t.hasIdentity = true ∧ g.MentionedByMethods s t ∨ g.NamedRepositoryOf s t) := by
    intro id
    rw [repositoryTargets, mem_textSet, List.mem_append, mem_methodTargets, mem_nameTargets]
    constructor
    · rintro (⟨other, t, ht, same, mentioned⟩ | ⟨other, t, ht, same, named⟩)
      · exact ⟨other, t, ht, same, Or.inl mentioned⟩
      · exact ⟨other, t, ht, same, Or.inr named⟩
    · rintro ⟨other, t, ht, same, mentioned | named⟩
      · exact Or.inl ⟨other, t, ht, same, mentioned⟩
      · exact Or.inr ⟨other, t, ht, same, named⟩
  refine ⟨ascend_textSet _, targets, ⟨fun all t ht other named => ?_, fun all t ht target => ?_⟩⟩
  · exact all t ht ((targets t.id).mpr ⟨other, t, ht, rfl, Or.inr named⟩)
  · obtain ⟨other, u, hu, same, found⟩ := (targets t.id).mp target
    obtain rfl := eq_of_id_eq hu ht same
    rcases found with ⟨identity, -⟩ | named
    · exact identity
    · exact all u hu other named

private def namedSymbol (name : String) (fields : List FieldDeclaration) : Symbol :=
  { id := "shop.java::" ++ name, name, qualifiedName := name, nameSpace := "", kind := .classType,
    originPath := "shop.java", language := "java", fields }

private def totalShop : SymbolGraph :=
  ⟨[namedSymbol "Order" [{ name := "total", declaredType := some "int" }],
    namedSymbol "OrderRepository" []], [], by decide, by simp⟩

theorem named_target_without_identity :
    ∃ s ∈ totalShop.symbols, ∃ t ∈ totalShop.symbols,
      t.id ∈ totalShop.repositoryTargets s ∧ t.hasIdentity = false := by
  refine ⟨_, .tail _ (.head _), _, .head _, ?_, by decide +kernel⟩
  rw [repositoryTargets, mem_textSet]
  decide +kernel

end SymbolGraph

end TacticalDesign
