import TacticalDesign.Proofs.Baseline.Records
import TacticalDesign.Proofs.Diff.Matching
import TacticalDesign.Proofs.Graph.Assembly
/-!
# What is accepted as a baseline

Any value is read as a baseline with unique ids and edges between its symbols, or it is refused:
for its schema tag, which comes before anything else, or as a value that is no baseline. No other
failure comes through, whatever stands in the records.
-/

namespace TacticalDesign

/-! ## Graphs of records -/

namespace KeyedGraph

theorem eq_of_ofLists {symbols : List KeyedSymbol} {edges : List KeyedEdge} {k : KeyedGraph}
    (h : ofLists symbols edges = .ok k) : k.symbols = symbols ∧ k.edges = edges := by
  obtain ⟨-, -, h⟩ := bind_eq_ok.mp h
  obtain ⟨-, -, h⟩ := bind_eq_ok.mp h
  split at h
  · obtain ⟨-, -, h⟩ := bind_eq_ok.mp h
    obtain ⟨-, -, h⟩ := bind_eq_ok.mp h
    split at h
    · obtain ⟨-, -, h⟩ := bind_eq_ok.mp h
      cases h
      exact ⟨rfl, rfl⟩
    · split at h <;> cases h
  · cases h

end KeyedGraph

/-! ## Kinds of failure -/

/-- A problem with the parts of a document is a missing key, a value of the wrong sort or a wrong
value. -/
theorem BaselineProblem.kind_mem (p : BaselineProblem) :
    p.failure.kind ∈ foreseenKinds ∨ p.failure.kind = "ValueError" := by
  cases p <;>
    simp [failure, typeFailure, foreseenKinds, DeclarationProblem.failure, Failure.missingKey,
      Failure.other, Failure.value]

namespace BaselineError

theorem kind_ofProblem (p : BaselineProblem) : (ofProblem p).failure.kind = "ValueError" := by
  unfold ofProblem
  split
  · rfl
  · rename_i unforeseen
    exact p.kind_mem.resolve_left unforeseen

end BaselineError

/-! ## Documents -/

namespace BaselineReader

variable {members : Members}

theorem fit_eq_ok {shape : RecordShape} {m : Members} (h : shape.fit members = .ok m) :
    m = members ∧ ∀ key ∈ shape.required, (Json.lookup key members).isSome := by
  unfold RecordShape.fit at h
  split at h
  · cases h
  · dsimp only at h
    split at h
    · rename_i none_missing
      cases h
      refine ⟨rfl, fun key hkey => ?_⟩
      have there := List.filter_eq_nil_iff.mp (List.isEmpty_iff.mp none_missing) key hkey
      simpa [Option.isSome_iff_ne_none] using there
    · cases h

theorem mapping_eq_ok {v : Json} (h : mapping v = .ok members) : v = .object members := by
  unfold mapping at h
  split at h
  · cases h
    rfl
  · cases h
  · split at h <;> cases h
  · cases h

/-- The id of a symbol is the text of the value that it is found by. -/
theorem id_of_symbol {v : Json} {s : Symbol} (read : symbol v = .ok s) :
    s.id = (keyedSymbol v).id.asText := by
  obtain ⟨m, mapped, h⟩ := bind_eq_ok.mp read
  obtain ⟨fieldItems, -, h⟩ := bind_eq_ok.mp h
  obtain ⟨fields, -, h⟩ := bind_eq_ok.mp h
  obtain ⟨methodItems, -, h⟩ := bind_eq_ok.mp h
  obtain ⟨methods, -, h⟩ := bind_eq_ok.mp h
  obtain ⟨bases, -, h⟩ := bind_eq_ok.mp h
  obtain ⟨m', fits, h⟩ := bind_eq_ok.mp h
  cases h
  obtain ⟨rfl, required⟩ := fit_eq_ok fits
  obtain rfl := mapping_eq_ok mapped
  obtain ⟨id, hid⟩ := Option.isSome_iff_exists.mp
    (required "symbol_id" (by decide : "symbol_id" ∈ symbolShape.required))
  simp [text, keyedSymbol, valueAt, Json.get?, hid]

/-- What the graph of an accepted document is made of: the values under which its records stand are
different ids, and each edge joins two of them. -/
inductive Accepts : Json → Baseline → Prop where
  | object {members : Members} {b symbolItems edgeItems}
      (symbols : listAt "symbols" members = .ok symbolItems)
      (edges : listAt "relationships" members = .ok edgeItems)
      (distinct : symbolItems.Pairwise fun v w =>
        (keyedSymbol v).id.sameKey (keyedSymbol w).id = false)
      (joined : ∀ e ∈ edgeItems,
        (keyedEdge e).joins (symbolItems.map fun v => (keyedSymbol v).id) = true)
      (ids : b.graph.ids.Perm (symbolItems.map fun v => (keyedSymbol v).id.asText)) :
      Accepts (.object members) b

theorem accepts_of_parts {b : Baseline} (read : parts members = .ok b) :
    Accepts (.object members) b := by
  obtain ⟨symbolItems, symbols, h⟩ := bind_eq_ok.mp read
  obtain ⟨readSymbols, symbols_read, h⟩ := bind_eq_ok.mp h
  obtain ⟨edgeItems, edges, h⟩ := bind_eq_ok.mp h
  obtain ⟨readEdges, -, h⟩ := bind_eq_ok.mp h
  obtain ⟨classificationItems, -, h⟩ := bind_eq_ok.mp h
  obtain ⟨classifications, -, h⟩ := bind_eq_ok.mp h
  obtain ⟨keyed, indexed, h⟩ := bind_eq_ok.mp h
  obtain ⟨graph, made, h⟩ : ∃ graph, SymbolGraph.ofLists readSymbols
      (List.zipWith keyed.attach readEdges (edgeItems.map keyedEdge)) = .ok graph ∧
      b.graph = graph := by
    dsimp only at h
    split at h
    · rename_i graph made
      obtain ⟨_, same, h⟩ := bind_eq_ok.mp h
      cases same
      obtain ⟨version, -, h⟩ := bind_eq_ok.mp h
      obtain ⟨fingerprint, -, h⟩ := bind_eq_ok.mp h
      cases h
      exact ⟨graph, made, rfl⟩
    · cases h
  obtain ⟨same_symbols, same_edges⟩ := KeyedGraph.eq_of_ofLists indexed
  refine .object symbols edges ?_ (fun e he => ?_) ?_
  · have distinct := keyed.distinct
    rw [same_symbols] at distinct
    exact List.pairwise_map.mp distinct
  · have inside := keyed.inside (keyedEdge e) (same_edges ▸ List.mem_map_of_mem he)
    rw [same_symbols, List.map_map] at inside
    exact inside
  · have texts : readSymbols.map (·.id) = symbolItems.map fun v => (keyedSymbol v).id.asText :=
      map_of_mapM id_of_symbol symbols_read
    rw [← texts, SymbolGraph.ids, h]
    exact (SymbolGraph.perm_of_ofLists made).map _

inductive Untagged (members : Members) : Prop where
  | missing (absent : Json.lookup "schema_version" members = none)
  | notText {v} (there : Json.lookup "schema_version" members = some v)
      (other : ∀ tag, v ≠ .string tag)
  | empty (there : Json.lookup "schema_version" members = some (.string ""))
  | otherMajor {tag} (there : Json.lookup "schema_version" members = some (.string tag))
      (major : Text.beforeFirst '.' tag.toList ≠ ['1'])

theorem schemaTag_eq_some_iff {tag : String} :
    schemaTag members = some tag ↔ Json.lookup "schema_version" members = some (.string tag) := by
  unfold schemaTag
  split
  · rename_i there
    rw [there]
    simp
  · rename_i other
    exact ⟨nofun, fun there => absurd there (other tag)⟩

theorem untagged_iff : Untagged members ↔ ¬Baseline.HasCurrentMajor (schemaTag members) := by
  constructor
  · rintro untagged ⟨tag, tagged, filled, major⟩
    have there := schemaTag_eq_some_iff.mp tagged
    cases untagged with
    | missing absent => rw [there] at absent; cases absent
    | notText there' other => exact other tag (Option.some.inj (there'.symm.trans there))
    | empty there' =>
        have same := Json.string.inj (Option.some.inj (there.symm.trans there'))
        exact filled same
    | otherMajor there' major' =>
        obtain rfl := Json.string.inj (Option.some.inj (there.symm.trans there'))
        exact major' major
  · intro unreadable
    cases there : Json.lookup "schema_version" members with
    | none => exact .missing there
    | some v =>
        by_cases text : ∃ tag, v = .string tag
        · obtain ⟨tag, rfl⟩ := text
          by_cases filled : tag = ""
          · exact .empty (filled ▸ there)
          · refine .otherMajor there fun major => unreadable ?_
            exact ⟨tag, schemaTag_eq_some_iff.mpr there, filled, major⟩
        · exact .notText there fun tag same => text ⟨tag, same⟩

end BaselineReader

namespace Baseline

open BaselineReader

theorem ofJson_of_untagged {members : Members} (untagged : Untagged members) :
    ofJson (.object members) = .error (.schemaMismatch ⟨schemaTag members⟩) := by
  have unreadable := mt isReadable_iff.mp (untagged_iff.mp untagged)
  simp only [ofJson, checkSchema, if_neg unreadable]

theorem ofJson_of_tagged {members : Members} (tagged : ¬Untagged members) :
    ofJson (.object members) =
      match parts members with
      | .ok b => .ok b
      | .error problem => .error (.ofProblem problem) := by
  have readable : HasCurrentMajor (schemaTag members) :=
    Classical.not_not.mp (mt untagged_iff.mpr tagged)
  have tag_read := checkSchema_ok_iff.mpr readable
  cases read : parts members <;> simp only [ofJson, tag_read, read]

/-- Every value is a baseline whose ids are different and whose edges stay among its symbols, or it
is refused with one of two kinds of failure, of which that of the tag comes exactly where the tag of
an object cannot be read. -/
theorem accepted_or_refused (document : Json) :
    ((∃ b, ofJson document = .ok b ∧ Accepts document b ∧ b.graph.ids.Nodup ∧
        ∀ e ∈ b.graph.relationships, e.sourceId ∈ b.graph.ids ∧ e.targetId ∈ b.graph.ids) ∨
      ∃ e, ofJson document = .error e ∧
        (e.failure.kind = "SchemaVersionMismatchError" ∨ e.failure.kind = "ValueError")) ∧
    ((∃ e, ofJson document = .error e ∧ e.failure.kind = "SchemaVersionMismatchError") ↔
      ∃ members, document = .object members ∧ Untagged members) := by
  have not_object (h : ∀ members, document ≠ .object members) :
      ofJson document = .error .notAMapping := by
    cases document with
    | object members => exact absurd rfl (h members)
    | _ => rfl
  by_cases object : ∃ members, document = .object members
  · obtain ⟨members, rfl⟩ := object
    by_cases untagged : Untagged members
    · rw [ofJson_of_untagged untagged]
      exact ⟨Or.inr ⟨_, rfl, Or.inl rfl⟩, fun _ => ⟨members, rfl, untagged⟩, fun _ => ⟨_, rfl, rfl⟩⟩
    · have tagged : ¬∃ members', Json.object members = .object members' ∧ Untagged members' := by
        rintro ⟨_, ⟨⟩, h⟩
        exact untagged h
      rw [ofJson_of_tagged untagged]
      cases read : parts members with
      | ok b =>
          exact ⟨Or.inl ⟨b, rfl, accepts_of_parts read, b.graph.ids_nodup, b.graph.edges_inside⟩,
            nofun, fun h => absurd h tagged⟩
      | error problem =>
          have kind := BaselineError.kind_ofProblem problem
          refine ⟨Or.inr ⟨_, rfl, Or.inr kind⟩, ?_, fun h => absurd h tagged⟩
          rintro ⟨e, ⟨⟩, mismatch⟩
          rw [kind] at mismatch
          exact absurd mismatch (by decide)
  · have bare := not_object fun members same => object ⟨members, same⟩
    rw [bare]
    refine ⟨Or.inr ⟨_, rfl, Or.inr rfl⟩, ?_, fun ⟨members, same, _⟩ =>
      absurd ⟨members, same⟩ object⟩
    rintro ⟨e, ⟨⟩, mismatch⟩
    exact absurd mismatch (by decide)

end Baseline

end TacticalDesign
