import TacticalDesign.Proofs.Graph.Lookup
import TacticalDesign.Proofs.Graph.Shrinking
/-!
# What derived edges say

Each derived edge has one of three origins: a field that refers to another symbol by identity, a
field whose type mentions another symbol, or a base. Everything that holds of the edges of a merged
graph is read off these origins, and whatever symbols are merged, the result is such a graph.
-/

namespace TacticalDesign

namespace SymbolGraph

variable {g : SymbolGraph} {s t : Symbol} {field : FieldDeclaration} {e : Relationship}

structure Refers (g : SymbolGraph) (s : Symbol) (field : FieldDeclaration) (t : Symbol) : Prop where
  named : s.identityReferenceTarget field = some (normalizeName t.name)
  inside : t ∈ g.symbols
  other : t.id ≠ s.id

structure Mentions (g : SymbolGraph) (s : Symbol) (field : FieldDeclaration) (t : Symbol) :
    Prop where
  named : ∃ name ∈ (TypeReference.of field.declaredType).names, g.lookup name (some s) = some t.id
  inside : t ∈ g.symbols
  other : t.id ≠ s.id

structure IsFieldEdge (g : SymbolGraph) (s : Symbol) (field : FieldDeclaration)
    (e : Relationship) : Prop where
  source : e.sourceId = s.id
  via : e.via = field.name
  target : ∃ t, e.targetId = t.id ∧
    (e.kind = .identity ∧ g.Refers s field t ∨
      (e.kind = .composition ∨ e.kind = .reference) ∧ g.Mentions s field t)

/-- Where an edge from one symbol to another comes from. -/
inductive Origin (g : SymbolGraph) (s t : Symbol) (e : Relationship) : Prop where
  | reference (field : FieldDeclaration) (mem : field ∈ s.fields) (refers : g.Refers s field t)
      (kind : e.kind = .identity) (via : e.via = field.name)
  | mention (field : FieldDeclaration) (mem : field ∈ s.fields) (mentions : g.Mentions s field t)
      (kind : e.kind = if owns s t then .composition else .reference) (via : e.via = field.name)
  | base (mem : e.via ∈ s.bases) (found : g.lookup e.via (some s) = some t.id)
      (kind : e.kind = .inheritance)

/-! ## The origin of an edge -/

theorem refers_of_symbolOfNormalName {name : String}
    (hname : s.identityReferenceTarget field = some name)
    (h : g.symbolOfNormalName name s = some t) : g.Refers s field t := by
  have candidate := mem_of_preferNear h
  obtain ⟨inside, named⟩ := List.mem_filter.mp candidate
  obtain ⟨same, other⟩ : normalizeName t.name = name ∧ t.id ≠ s.id := by simpa using named
  exact ⟨same ▸ hname, inside, other⟩

theorem refers_of_identityEdge (h : g.identityEdge s field = some e) :
    ∃ t, g.Refers s field t ∧ e.sourceId = s.id ∧ e.targetId = t.id ∧ e.kind = .identity ∧
      e.via = field.name := by
  obtain ⟨name, hname, hn⟩ := Option.bind_eq_some_iff.mp h
  obtain ⟨t, ht, rfl⟩ := Option.map_eq_some_iff.mp hn
  exact ⟨t, refers_of_symbolOfNormalName hname ht, rfl, rfl, rfl, rfl⟩

theorem mem_resolveType_iff {id : String} :
    id ∈ g.resolveType s field.declaredType ↔ ∃ t, t.id = id ∧ g.Mentions s field t := by
  rw [mem_resolveType]
  constructor
  · rintro ⟨other, name, hname, found⟩
    obtain ⟨t, ht, rfl⟩ := List.mem_map.mp (mem_ids_of_lookup found)
    exact ⟨t, rfl, ⟨name, hname, found⟩, ht, other⟩
  · rintro ⟨t, rfl, ⟨name, hname, found⟩, -, other⟩
    exact ⟨other, name, hname, found⟩

theorem origin_of_mem_symbolEdges (h : e ∈ g.symbolEdges s) :
    ∃ t ∈ g.symbols, e.targetId = t.id ∧ t.id ≠ s.id ∧ Origin g s t e := by
  rw [symbolEdges, List.mem_append] at h
  rcases h with h | h
  · obtain ⟨field, hfield, hf⟩ := List.mem_flatMap.mp h
    unfold fieldEdges at hf
    split at hf
    · rename_i edge hedge
      obtain rfl := List.mem_singleton.mp hf
      obtain ⟨t, refers, -, target, kind, via⟩ := refers_of_identityEdge hedge
      exact ⟨t, refers.inside, target, refers.other, .reference field hfield refers kind via⟩
    · obtain ⟨id, hid, rfl⟩ := List.mem_map.mp hf
      obtain ⟨t, rfl, mentions⟩ := mem_resolveType_iff.mp hid
      refine ⟨t, mentions.inside, rfl, mentions.other, .mention field hfield mentions ?_ rfl⟩
      rw [get?_iff.mpr ⟨mentions.inside, rfl⟩]
      rfl
  · obtain ⟨base, hbase, hb⟩ := List.mem_filterMap.mp h
    obtain ⟨id, hid, rfl⟩ := Option.map_eq_some_iff.mp hb
    obtain ⟨found, other⟩ := Option.filter_eq_some_iff.mp hid
    obtain ⟨t, ht, rfl⟩ := List.mem_map.mp (mem_ids_of_lookup found)
    exact ⟨t, ht, rfl, by simpa using other, .base hbase found rfl⟩

/-! ## The edges of a field -/

theorem preferNear_isSome {near : Option Symbol} {candidates : List Symbol}
    (h : t ∈ candidates) : (preferNear near candidates).isSome := by
  match candidates, near with
  | [_], _ => rfl
  | _ :: _ :: _, none => rfl
  | _ :: _ :: _, some _ => simp [preferNear]

theorem identityEdge_isSome (refers : g.Refers s field t) : (g.identityEdge s field).isSome := by
  have candidate : t ∈ g.symbols.filter fun a =>
      normalizeName a.name == normalizeName t.name && a.id != s.id := by
    refine List.mem_filter.mpr ⟨refers.inside, ?_⟩
    simpa using refers.other
  have found : (g.symbolOfNormalName (normalizeName t.name) s).isSome :=
    preferNear_isSome candidate
  rw [identityEdge, refers.named, Option.bind_some, Option.isSome_map]
  exact found

/-- A field that refers to another symbol by identity has an edge, and so has one whose type
mentions another symbol. -/
theorem exists_fieldEdge (hfield : field ∈ s.fields)
    (resolves : ∃ t, g.Refers s field t ∨ g.Mentions s field t) :
    ∃ e ∈ g.symbolEdges s, g.IsFieldEdge s field e := by
  have member : ∀ e ∈ g.fieldEdges s field, e ∈ g.symbolEdges s := by
    intro e he
    exact List.mem_append_left _ (List.mem_flatMap.mpr ⟨field, hfield, he⟩)
  cases hedge : g.identityEdge s field with
  | some edge =>
      have only : edge ∈ g.fieldEdges s field := by simp [fieldEdges, hedge]
      obtain ⟨t, refers, source, target, kind, via⟩ := refers_of_identityEdge hedge
      exact ⟨edge, member edge only, source, via, t, target, Or.inl ⟨kind, refers⟩⟩
  | none =>
      obtain ⟨t, refers | mentions⟩ := resolves
      · have some_edge := identityEdge_isSome refers
        rw [hedge] at some_edge
        cases some_edge
      · have hid : t.id ∈ g.resolveType s field.declaredType :=
          mem_resolveType_iff.mpr ⟨t, rfl, mentions⟩
        obtain ⟨edge, hmem, target⟩ : ∃ edge ∈ g.typeEdges s field, edge.targetId = t.id :=
          ⟨_, List.mem_map_of_mem hid, rfl⟩
        have listed : edge ∈ g.fieldEdges s field := by
          rw [fieldEdges, hedge]
          exact hmem
        obtain ⟨id, -, rfl⟩ := List.mem_map.mp hmem
        exact ⟨_, member _ listed, rfl, rfl, t, target, Or.inr ⟨ite_eq_or_eq _ _ _, mentions⟩⟩

/-! ## Merged graphs -/

/-- What holds of the symbols and the edges of every merged graph. -/
structure WellDerived (g : SymbolGraph) : Prop where
  ids_ascend : g.ids.Pairwise (· < ·)
  ids_unique : g.ids.Nodup
  ends_differ : ∀ e ∈ g.relationships, ∃ s ∈ g.symbols, ∃ t ∈ g.symbols,
    e.sourceId = s.id ∧ e.targetId = t.id ∧ s ≠ t
  via_field : ∀ e ∈ g.relationships, e.kind ≠ .inheritance → ∀ s, g.get? e.sourceId = some s →
    ∃ field ∈ s.fields, e.via = field.name
  via_base : ∀ e ∈ g.relationships, e.kind = .inheritance → ∀ s, g.get? e.sourceId = some s →
    e.via ∈ s.bases
  held_one_way : ∀ e ∈ g.relationships, ∀ e' ∈ g.relationships,
    e.kind = .composition → e'.kind = .reference →
    ¬ (e.sourceId = e'.sourceId ∧ e.targetId = e'.targetId)
  parts_owned : ∀ e ∈ g.relationships, e.kind = .composition → ∀ s t,
    g.get? e.sourceId = some s → g.get? e.targetId = some t →
    t.hasIdentity = false ∨ (normalizeName s.name).toList <+: (normalizeName t.name).toList
  referenced_identity : ∀ e ∈ g.relationships, e.kind = .reference → ∀ t,
    g.get? e.targetId = some t → t.hasIdentity = true
  fields_covered : ∀ s ∈ g.symbols, ∀ field ∈ s.fields,
    (∀ e ∈ g.relationships, ¬ g.IsFieldEdge s field e) →
    ∀ t, ¬ g.Refers s field t ∧ ¬ g.Mentions s field t
  /-- The derivation looks up no id that the graph does not have. -/
  lookups_succeed : ∀ s type, ∀ id ∈ g.resolveType s type, (g.get? id).isSome

theorem origin_of_mem_relationships (derived : g.Derived) (h : e ∈ g.relationships) :
    ∃ s ∈ g.symbols, ∃ t ∈ g.symbols,
      e.sourceId = s.id ∧ e.targetId = t.id ∧ s ≠ t ∧ Origin g s t e := by
  obtain ⟨s, hs, he⟩ := List.mem_flatMap.mp ((derived e).mp h)
  obtain ⟨t, ht, target, other, origin⟩ := origin_of_mem_symbolEdges he
  have differ : s ≠ t := fun same => other (same ▸ rfl)
  exact ⟨s, hs, t, ht, sourceId_of_mem_symbolEdges he, target, differ, origin⟩

/-- Both ends of an edge and its origin, as they are looked up by the ids of the edge. -/
theorem origin_of_get? (derived : g.Derived) (h : e ∈ g.relationships)
    (source : g.get? e.sourceId = some s) (target : g.get? e.targetId = some t) :
    Origin g s t e := by
  obtain ⟨s', hs', t', ht', source', target', -, origin⟩ := origin_of_mem_relationships derived h
  have same_source : g.get? e.sourceId = some s' := get?_iff.mpr ⟨hs', source'.symm⟩
  have same_target : g.get? e.targetId = some t' := get?_iff.mpr ⟨ht', target'.symm⟩
  obtain rfl : s' = s := Option.some.inj (same_source.symm.trans source)
  obtain rfl : t' = t := Option.some.inj (same_target.symm.trans target)
  exact origin

/-- An edge that holds its target as a part starts at a symbol that owns the target, and one that
refers to it at a symbol that does not. -/
theorem owns_of_origin (origin : Origin g s t e) :
    (e.kind = .composition → owns s t = true) ∧ (e.kind = .reference → owns s t = false) := by
  cases origin with
  | reference field mem refers kind via => simp [kind]
  | mention field mem mentions kind via => cases howns : owns s t <;> simp [kind, howns]
  | base mem found kind => simp [kind]

theorem exists_get? (h : e ∈ g.relationships) :
    ∃ s t, g.get? e.sourceId = some s ∧ g.get? e.targetId = some t := by
  obtain ⟨source, target⟩ := g.edges_inside e h
  obtain ⟨s, hs⟩ := Option.isSome_iff_exists.mp (get?_isSome source)
  obtain ⟨t, ht⟩ := Option.isSome_iff_exists.mp (get?_isSome target)
  exact ⟨s, t, hs, ht⟩

theorem Derived.wellDerived (derived : g.Derived) : g.WellDerived where
  ids_ascend := List.pairwise_map.mpr g.symbols_ascend
  ids_unique := g.ids_nodup
  ends_differ := by
    intro e he
    obtain ⟨s, hs, t, ht, source, target, differ, -⟩ := origin_of_mem_relationships derived he
    exact ⟨s, hs, t, ht, source, target, differ⟩
  via_field := by
    intro e he hkind s source
    obtain ⟨-, t, -, target⟩ := exists_get? he
    cases origin_of_get? derived he source target with
    | reference field mem _ _ via => exact ⟨field, mem, via⟩
    | mention field mem _ _ via => exact ⟨field, mem, via⟩
    | base _ _ kind => exact absurd kind hkind
  via_base := by
    intro e he hkind s source
    obtain ⟨-, t, -, target⟩ := exists_get? he
    cases origin_of_get? derived he source target with
    | reference _ _ _ kind => simp [kind] at hkind
    | mention _ _ _ kind => cases howns : owns s t <;> simp [kind, howns] at hkind
    | base mem => exact mem
  held_one_way := by
    rintro e he e' he' part reference ⟨source, target⟩
    obtain ⟨s, t, hs, ht⟩ := exists_get? he
    have owned := (owns_of_origin (origin_of_get? derived he hs ht)).1 part
    have apart := (owns_of_origin
      (origin_of_get? derived he' (source ▸ hs) (target ▸ ht))).2 reference
    rw [owned] at apart
    cases apart
  parts_owned := by
    intro e he part s t source target
    have owned := (owns_of_origin (origin_of_get? derived he source target)).1 part
    rw [owns, Bool.or_eq_true, Bool.not_eq_true', Text.startsWith] at owned
    exact owned.imp_right List.isPrefixOf_iff_prefix.mp
  referenced_identity := by
    intro e he reference t target
    obtain ⟨s, -, source, -⟩ := exists_get? he
    have apart := (owns_of_origin (origin_of_get? derived he source target)).2 reference
    rw [owns, Bool.or_eq_false_iff, Bool.not_eq_false'] at apart
    exact apart.1
  fields_covered := by
    intro s hs field hfield no_edge t
    have no_origin : ¬ ∃ t, g.Refers s field t ∨ g.Mentions s field t := by
      intro resolves
      obtain ⟨e, he, edge⟩ := exists_fieldEdge hfield resolves
      exact no_edge e ((derived e).mpr (List.mem_flatMap.mpr ⟨s, hs, he⟩)) edge
    exact ⟨fun refers => no_origin ⟨t, Or.inl refers⟩,
      fun mentions => no_origin ⟨t, Or.inr mentions⟩⟩
  lookups_succeed := fun _ _ _ h => get?_isSome (mem_ids_of_resolveType h)

/-- Merging never fails. Whatever the units gave, their symbols make a graph that has the first
symbol of each id, and its edges are as `WellDerived` says. -/
theorem merge_wellDerived (parts : List PartialGraph) :
    ∃ g, ofSymbols (parts.flatMap (·.symbols)) = .ok g ∧
      (∀ id, g.get? id = (parts.flatMap (·.symbols)).find? (·.id == id)) ∧ g.WellDerived := by
  obtain ⟨g, hg, first, -⟩ := ofSymbols_ok (parts.flatMap (·.symbols))
  exact ⟨g, hg, first, (derived_of_ofSymbols hg).wellDerived⟩

end SymbolGraph

end TacticalDesign
