import TacticalDesign.Command.Run
import TacticalDesign.Proofs.Baseline.Records
import TacticalDesign.Proofs.Diff.Matching
import TacticalDesign.Proofs.Files.Written
import TacticalDesign.Proofs.Graph.Assembly
/-!
# Baselines are read back

A baseline whose words stand for themselves is read back from the document that is made of it. That
goes for the bytes of a file as well.
-/

namespace TacticalDesign

/-! ## Documents that can be read -/

namespace Json

@[simp]
theorem readable_bool (b : Bool) : (bool b).IsReadable := .bool b

@[simp]
theorem readable_string (s : String) : (string s).IsReadable := .string s

@[simp]
theorem readable_number_iff {n : Number} : (number n).IsReadable ↔ n.IsReadable :=
  ⟨fun h => by cases h; assumption, .number⟩

@[simp]
theorem readable_array_iff {items : List Json} :
    (array items).IsReadable ↔ ∀ v ∈ items, v.IsReadable :=
  ⟨fun h => by cases h; assumption, .array⟩

@[simp]
theorem readable_object_iff {members : List (String × Json)} :
    (object members).IsReadable ↔ ∀ m ∈ members, m.2.IsReadable :=
  ⟨fun h => by cases h; assumption, .object⟩

@[simp]
theorem readable_optionalString (o : Option String) : (optionalString o).IsReadable := by
  cases o with
  | none => exact .null
  | some s => exact .string s

@[simp]
theorem readable_strings (l : List String) : (strings l).IsReadable := by
  simp [strings]

end Json

theorem FieldDeclaration.readable_toJson (f : FieldDeclaration) : f.toJson.IsReadable := by
  simp [toJson]

theorem MethodDeclaration.readable_toJson (m : MethodDeclaration) : m.toJson.IsReadable := by
  simp [toJson]

theorem Symbol.readable_toJson (s : Symbol) : s.toJson.IsReadable := by
  simp [toJson, FieldDeclaration.readable_toJson, MethodDeclaration.readable_toJson]

theorem Relationship.readable_toJson (e : Relationship) : e.toJson.IsReadable := by
  simp [toJson]

theorem Classification.readable_toJson_iff {c : Classification} :
    c.toJson.IsReadable ↔ c.score.IsReadable ∧ c.support.IsReadable ∧
      ∀ a ∈ c.alternates, a.score.IsReadable := by
  simp [toJson, alternateJson]

namespace Baseline

/-! ## Baselines as they are read back -/

/-- A baseline that its document stands for: under a tag that can be read, in words that stand for
themselves, with numbers that can be read and edges in order. -/
structure Canonical (b : Baseline) : Prop where
  schema : HasCurrentMajor b.schemaVersion
  symbols : ∀ s ∈ b.graph.symbols, s.Canonical
  edges : ∀ e ∈ b.graph.relationships, e.Canonical
  classifications : ∀ c ∈ b.classifications, c.Canonical
  numbers : ∀ c ∈ b.classifications, c.toJson.IsReadable
  sorted : b.graph.Sorted

def reread (b : Baseline) : Baseline :=
  { b with classifications := b.classifications.map (·.reread) }

@[simp]
theorem reread_eq (b : Baseline) : b.reread = b := by
  have classifications : b.classifications.map Classification.reread = b.classifications := by
    refine (List.map_congr_left fun c _ => ?_).trans (List.map_id _)
    exact c.reread_eq
  simp only [reread, classifications]

/-- An order that holds its lines, classified with numbers that have no short binary form. -/
def ofOrder : Baseline where
  schemaVersion := some "1.9"
  registryVersion := "1"
  registryFingerprint := "f"
  graph :=
    { symbols := [
        { id := "a.java::Order", name := "Order", qualifiedName := "Order", nameSpace := "",
          kind := .classType, originPath := "a.java", language := "java",
          fields := [{ name := "line", declaredType := some "Line" }],
          methods := [{ name := "total", visibility := .privateAccess, parameterTypes := ["int"] }],
          bases := ["Base"] },
        { id := "b.java::Line", name := "Line", qualifiedName := "Line", nameSpace := "shop",
          kind := .recordType, originPath := "b.java", language := "java", valueEquality := true }]
      relationships := [
        { sourceId := "a.java::Order", targetId := "b.java::Line", kind := .composition,
          via := "line" }]
      symbols_ascend := by decide
      edges_inside := by decide }
  classifications := [
    { symbolId := "a.java::Order", role := .entity, confidence := .low, score := .float 0.1,
      support := .float (2 / 3), alternates := [⟨.valueObject, .float 1e22⟩],
      evidence := ["DET-001"] }]

theorem canonical_ofOrder : ofOrder.Canonical where
  schema := ⟨"1.9", rfl, by decide⟩
  symbols := by
    intro s hs
    rcases List.mem_cons.mp hs with rfl | hs
    · exact ⟨rfl, fun m hm => by obtain rfl := List.mem_singleton.mp hm; rfl⟩
    · obtain rfl := List.mem_singleton.mp hs
      exact ⟨rfl, fun m hm => by cases hm⟩
  edges := by
    intro e he
    obtain rfl := List.mem_singleton.mp he
    exact ⟨rfl, rfl⟩
  classifications := by
    intro c hc
    obtain rfl := List.mem_singleton.mp hc
    exact ⟨rfl, rfl, fun a ha => by obtain rfl := List.mem_singleton.mp ha; rfl⟩
  numbers := by
    intro c hc
    obtain rfl := List.mem_singleton.mp hc
    rw [Classification.readable_toJson_iff]
    exact ⟨trivial, trivial, fun a ha => by obtain rfl := List.mem_singleton.mp ha; trivial⟩
  sorted := by
    show SymbolGraph.sortEdges [_] = [_]
    rw [SymbolGraph.sortEdges, List.mergeSort_singleton]
    rfl

variable {b : Baseline} (canonical : b.Canonical)
include canonical

theorem readable_toJson : b.toJson.IsReadable := by
  simpa [toJson, Symbol.readable_toJson, Relationship.readable_toJson] using canonical.numbers

open BaselineReader in
/-- A baseline is read from the document that is made of it, in whatever order the members stand. -/
theorem ofJson_reordered {f : Json → Json} (reorders : Json.IsReordering f) :
    ofJson (f b.toJson) = .ok b := by
  let members : Members := [("schema_version", .optionalString b.schemaVersion),
    ("registry_version", .string b.registryVersion),
    ("registry_fingerprint", .string b.registryFingerprint), ("root_path", .string b.rootPath),
    ("symbols", .array (b.graph.symbols.map (·.toJson))),
    ("relationships", .array (b.graph.relationships.map (·.toJson))),
    ("classifications", .array (b.classifications.map (·.toJson)))]
  have distinct : (members.map (·.1)).Nodup := by
    show ["schema_version", "registry_version", "registry_fingerprint", "root_path",
      "symbols", "relationships", "classifications"].Nodup
    decide
  obtain ⟨m, written, same⟩ := reorders.object distinct
  have at_key : ∀ key, Json.lookup key m = (Json.lookup key members).map f :=
    Json.lookup_of_perm distinct same
  have tag : schemaTag m = b.schemaVersion := by
    rw [schemaTag, (at_key "schema_version").trans
      (congrArg some (reordered_optionalString reorders _))]
    cases b.schemaVersion <;> rfl
  have symbols : listAt "symbols" m = .ok (b.graph.symbols.map fun s => f s.toJson) :=
    listAt_of_lookup reorders (at_key "symbols")
  have edges : listAt "relationships" m = .ok (b.graph.relationships.map fun e => f e.toJson) :=
    listAt_of_lookup reorders (at_key "relationships")
  have classifications : listAt "classifications" m =
      .ok (b.classifications.map fun c => f c.toJson) :=
    listAt_of_lookup reorders (at_key "classifications")
  have read_symbols : (b.graph.symbols.map fun s => f s.toJson).mapM symbol =
      .ok b.graph.symbols :=
    mapM_reordered fun s hs => symbol_reordered reorders (canonical.symbols s hs)
  have read_edges : (b.graph.relationships.map fun e => f e.toJson).mapM relationship =
      .ok b.graph.relationships :=
    mapM_reordered fun e he => relationship_reordered reorders (canonical.edges e he)
  have read_classifications : (b.classifications.map fun c => f c.toJson).mapM classification =
      .ok b.classifications :=
    mapM_reordered fun c hc => classification_reordered reorders (canonical.classifications c hc)
  have version : required "registry_version" m = .ok b.registryVersion :=
    required_of_lookup reorders (at_key "registry_version")
  have fingerprint : required "registry_fingerprint" m = .ok b.registryFingerprint :=
    required_of_lookup reorders (at_key "registry_fingerprint")
  have symbol_keys : (b.graph.symbols.map fun s => f s.toJson).map keyedSymbol =
      b.graph.symbols.map .ofSymbol := by
    rw [List.map_map]
    exact List.map_congr_left fun s _ => keyedSymbol_reordered reorders s
  have edge_keys : (b.graph.relationships.map fun e => f e.toJson).map keyedEdge =
      b.graph.relationships.map .ofRelationship := by
    rw [List.map_map]
    exact List.map_congr_left fun e _ => keyedEdge_reordered reorders e
  obtain ⟨keyed, indexed⟩ := KeyedGraph.ofLists_texts b.graph
  have attached : List.zipWith keyed.attach b.graph.relationships
      (b.graph.relationships.map .ofRelationship) = b.graph.relationships := by
    rw [List.zipWith_map_right, List.zipWith_self]
    exact (List.map_congr_left fun e _ => keyed.attach_ofRelationship e).trans (List.map_id _)
  rw [toJson, written, ofJson]
  simp only [tag, checkSchema_ok_iff.mpr canonical.schema, parts, symbols, read_symbols, edges,
    read_edges, classifications, read_classifications, symbol_keys, edge_keys, indexed, attached,
    SymbolGraph.ofLists_self canonical.sorted, version, fingerprint, bind, Except.bind, pure,
    Except.pure]
  rw [text_of_lookup reorders (at_key "root_path")]

theorem ofJson_reread : ofJson b.toJson.reread = .ok b.reread := by
  rw [reread_eq]
  exact ofJson_reordered canonical Json.isReordering_reread

theorem ofDocument_encode :
    ofDocument (.ok (Text.Utf8.encode b.toJson.indentedText.toList)) = .ok b.reread := by
  simp only [ofDocument, Document.read, Document.parse_encode (readable_toJson canonical),
    ofJson_reread canonical]

theorem ofDocument_of_writeFile {t t' : FileTree} {p : Path}
    (written : t.writeFile p (Text.Utf8.encode b.toJson.indentedText.toList) = .ok t') :
    ofDocument (t'.read p) = .ok b.reread := by
  rw [FileTree.read_of_writeFile written, ofDocument_encode canonical]

/-- A baseline is what is read from the document that is made of it, and what is read from a file
into which that document was written. Writing it there once more leaves the file as it is. -/
theorem document_roundTrip :
    ofJson b.toJson = .ok b ∧
      ∀ (t t' : FileTree) (p : Path),
        t.writeFile p (Command.bytesOf b.toJson.indentedText) = .ok t' →
          ∃ b', ofDocument (t'.read p) = .ok b' ∧ b' = b ∧
            t'.writeFile p (Command.bytesOf b'.toJson.indentedText) = .ok t' := by
  refine ⟨ofJson_reordered canonical Json.isReordering_id, fun t t' p written => ?_⟩
  have read : ofDocument (t'.read p) = .ok b.reread := ofDocument_of_writeFile canonical written
  rw [reread_eq] at read
  exact ⟨b, read, rfl, FileTree.writeFile_again written⟩

omit canonical in
theorem document_roundTrip_classified :
    ∃ (b : Baseline) (t : FileTree), b.Canonical ∧ b.graph.relationships ≠ [] ∧
      b.classifications.map (·.score) = [.float 0.1] ∧ ofJson b.toJson = .ok b ∧
      FileTree.writeFile {} (.ofText "base.json") (Command.bytesOf b.toJson.indentedText) = .ok t ∧
      ofDocument (t.read (.ofText "base.json")) = .ok b := by
  have written : ∀ bytes, FileTree.writeFile {} (.ofText "base.json") bytes =
      .ok (FileTree.put {} ["base.json"] (.file bytes)) :=
    FileTree.writeFile_empty (by decide) (by decide) (by decide) (by decide)
  obtain ⟨made, from_file⟩ := document_roundTrip canonical_ofOrder
  obtain ⟨b', read, rfl, -⟩ := from_file {} _ (.ofText "base.json") (written _)
  exact ⟨ofOrder, _, canonical_ofOrder, by simp [ofOrder], rfl, made, written _, read⟩

end Baseline

end TacticalDesign
