import TacticalDesign.BaselineIndex
import TacticalDesign.Proofs.Except
/-!
# Graphs whose records hold texts

Texts are keys, each of its own, and all of them are in order, so the records of a symbol graph are
indexed as they stand.
-/

namespace TacticalDesign

namespace Json

@[simp]
theorem sameKey_string (s t : String) : (string s).sameKey (string t) = decide (s = t) := rfl

theorem eq_string_of_sameKey {v : Json} {s : String} (h : v.sameKey (string s) = true) :
    v = string s := by
  cases v with
  | string t => simpa using h
  | number n => cases n <;> simp [sameKey, asNumber?] at h
  | _ => simp [sameKey, asNumber?] at h

theorem isComparable_firstDifference {vs ws : List Json} {d : Json × Json}
    (texts : ∀ v ∈ vs, ∃ s, v = string s) (texts' : ∀ w ∈ ws, ∃ t, w = string t)
    (h : firstDifference vs ws = some d) : d.1.isComparable d.2 = true := by
  induction vs generalizing ws with
  | nil => cases h
  | cons v vs ih =>
      cases ws with
      | nil => cases h
      | cons w ws =>
          obtain ⟨s, rfl⟩ := texts v List.mem_cons_self
          obtain ⟨t, rfl⟩ := texts' w List.mem_cons_self
          unfold firstDifference at h
          split at h
          · exact ih (fun v hv => texts v (List.mem_cons_of_mem _ hv))
              (fun w hw => texts' w (List.mem_cons_of_mem _ hw)) h
          · cases h
            rfl

end Json

def KeyedSymbol.ofSymbol (s : Symbol) : KeyedSymbol where
  id := .string s.id
  name := .string s.name
  qualifiedName := .string s.qualifiedName

def KeyedEdge.ofRelationship (e : Relationship) : KeyedEdge where
  source := .string e.sourceId
  target := .string e.targetId
  kind := .string e.kind.word
  cardinality := .string e.cardinality.word
  via := .string e.via

namespace KeyedGraph

theorem checkOrder_ok {α : Type} {clash : α → α → Option (Json × Json)} {items : List α}
    (clear : ∀ a ∈ items, ∀ b ∈ items, clash a b = none) : checkOrder clash items = .ok () := by
  induction items with
  | nil => rfl
  | cons a rest ih =>
      cases rest with
      | nil => rfl
      | cons b rest =>
          have here := clear a List.mem_cons_self b (List.mem_cons_of_mem _ List.mem_cons_self)
          rw [checkOrder, here]
          exact ih fun a ha b hb =>
            clear a (List.mem_cons_of_mem _ ha) b (List.mem_cons_of_mem _ hb)

theorem checkKeys_ok {values : List Json} (texts : ∀ v ∈ values, ∃ s, v = .string s) :
    checkKeys values = .ok () := by
  have all_keys : values.find? (!·.isKey) = none := by
    refine List.find?_eq_none.mpr fun v hv => ?_
    obtain ⟨s, rfl⟩ := texts v hv
    simp [Json.isKey]
  rw [checkKeys, all_keys]

theorem textOf_string (k : KeyedGraph) (s : String) : k.textOf (.string s) = s := by
  unfold textOf
  cases found : (k.symbols.map (·.id)).find? (·.sameKey (.string s)) with
  | none => rfl
  | some v =>
      have same : v.sameKey (.string s) = true := by simpa using List.find?_some found
      obtain rfl := Json.eq_string_of_sameKey same
      rfl

theorem attach_ofRelationship (k : KeyedGraph) (e : Relationship) :
    k.attach e (.ofRelationship e) = e := by
  simp only [attach, KeyedEdge.ofRelationship, textOf_string]

theorem ofLists_texts (g : SymbolGraph) :
    ∃ k, ofLists (g.symbols.map .ofSymbol) (g.relationships.map .ofRelationship) = .ok k := by
  have ids : (g.symbols.map KeyedSymbol.ofSymbol).map (·.id) = g.ids.map Json.string := by
    simp [SymbolGraph.ids, KeyedSymbol.ofSymbol]
  have text_ids : ∀ v ∈ g.ids.map Json.string, ∃ s, v = Json.string s := by simp
  have edge_texts : ∀ e ∈ g.relationships.map KeyedEdge.ofRelationship,
      (∀ v ∈ e.values, ∃ s, v = .string s) ∧ ∀ v ∈ e.key, ∃ s, v = Json.string s := by
    simp [KeyedEdge.values, KeyedEdge.key, KeyedEdge.ofRelationship]
  have ordered_ids : checkOrder idClash (g.ids.map Json.string) = .ok () := by
    refine checkOrder_ok fun a ha b hb => ?_
    obtain ⟨s, rfl⟩ := text_ids a ha
    obtain ⟨t, rfl⟩ := text_ids b hb
    rfl
  have distinct : (g.symbols.map KeyedSymbol.ofSymbol).Pairwise
      fun a b => a.id.sameKey b.id = false := by
    refine List.pairwise_map.mpr (g.symbols_ascend.imp fun lt => ?_)
    simpa [KeyedSymbol.ofSymbol] using (String.ne_of_lt lt)
  have ordered_edges : checkOrder edgeClash ((g.relationships.map
      KeyedEdge.ofRelationship).mergeSort fun a b => Json.keysLe a.key b.key) = .ok () := by
    refine checkOrder_ok fun a ha b hb => ?_
    have texts := (edge_texts a (List.mem_mergeSort.mp ha)).2
    have texts' := (edge_texts b (List.mem_mergeSort.mp hb)).2
    simp only [edgeClash, Option.filter_eq_none_iff]
    intro d hd
    simpa using Json.isComparable_firstDifference texts texts' hd
  have inside : ∀ e ∈ g.relationships.map KeyedEdge.ofRelationship,
      e.joins (g.ids.map Json.string) = true := by
    intro e he
    obtain ⟨r, hr, rfl⟩ := List.mem_map.mp he
    obtain ⟨source, target⟩ := g.edges_inside r hr
    have there {id : String} (h : id ∈ g.ids) :
        (g.ids.map Json.string).any (·.sameKey (.string id)) = true :=
      List.any_eq_true.mpr ⟨.string id, List.mem_map_of_mem h, by simp⟩
    exact Bool.and_eq_true_iff.mpr ⟨there source, there target⟩
  have edge_keys : checkKeys ((g.relationships.map KeyedEdge.ofRelationship).flatMap (·.values)) =
      .ok () := by
    refine checkKeys_ok fun v hv => ?_
    obtain ⟨e, he, hv⟩ := List.mem_flatMap.mp hv
    exact (edge_texts e he).1 v hv
  have name_keys : checkKeys (((g.symbols.map KeyedSymbol.ofSymbol).mergeSort
      fun a b => !b.id.keyLt a.id).flatMap fun s => [s.name, s.qualifiedName]) = .ok () := by
    refine checkKeys_ok fun v hv => ?_
    obtain ⟨e, he, hv⟩ := List.mem_flatMap.mp hv
    obtain ⟨s, -, rfl⟩ := List.mem_map.mp (List.mem_mergeSort.mp he)
    rcases List.mem_cons.mp hv with rfl | hv
    · exact ⟨s.name, rfl⟩
    · exact ⟨s.qualifiedName, List.mem_singleton.mp hv⟩
  simp only [ofLists, ids, ordered_ids, checkKeys_ok text_ids, dif_pos distinct, edge_keys,
    ordered_edges, dif_pos inside, name_keys, bind, Except.bind, pure, Except.pure]
  exact ⟨_, rfl⟩

end KeyedGraph

end TacticalDesign
