import TacticalDesign.BaselineReader
import TacticalDesign.Proofs.Baseline.Index
import TacticalDesign.Proofs.Except
import TacticalDesign.Proofs.Json.RoundTrip
/-!
# Records are read back

Each record of a baseline document is read as what it was made of, in whatever order the members of
its objects stand: as they were put together, or as a written document has them. A word of an open
vocabulary is read back as long as it stands for itself: the words that the vocabulary knows have
names of their own.
-/

namespace TacticalDesign

/-! ## Words that stand for themselves -/

/-- A method whose visibility is what its word is read as. -/
def MethodDeclaration.Canonical (m : MethodDeclaration) : Prop :=
  Visibility.ofWord m.visibility.word = m.visibility

structure Symbol.Canonical (s : Symbol) : Prop where
  kind : DeclarationKind.ofWord s.kind.word = s.kind
  methods : ∀ m ∈ s.methods, m.Canonical

structure Relationship.Canonical (e : Relationship) : Prop where
  kind : RelationshipKind.ofWord e.kind.word = e.kind
  cardinality : Cardinality.ofWord e.cardinality.word = e.cardinality

structure Classification.Canonical (c : Classification) : Prop where
  role : Role.ofWord c.role.word = c.role
  confidence : Level.ofWord c.confidence.word = c.confidence
  alternates : ∀ a ∈ c.alternates, Role.ofWord a.role.word = a.role

/-! ## Numbers as they are read back -/

def Alternate.reread (a : Alternate) : Alternate := { a with score := a.score.reread }

def Classification.reread (c : Classification) : Classification :=
  { c with
    score := c.score.reread
    support := c.support.reread
    alternates := c.alternates.map (·.reread) }

@[simp]
theorem Classification.reread_eq (c : Classification) : c.reread = c := by
  have alternates : c.alternates.map Alternate.reread = c.alternates := by
    refine (List.map_congr_left fun a _ => ?_).trans (List.map_id _)
    simp only [Alternate.reread, Number.reread_eq, id]
  simp only [Classification.reread, Number.reread_eq, alternates]

namespace BaselineReader

open Json (IsReordering lookup)

/-! ## Shapes -/

/-- Whether keys fit a record: each once, all that must be there and no others. -/
structure RecordShape.Covers (shape : RecordShape) (keys : List String) : Prop where
  distinct : keys.Nodup
  known : ∀ key ∈ keys, key ∈ shape.required ++ shape.optional
  required : ∀ key ∈ shape.required, key ∈ keys

instance (shape : RecordShape) (keys : List String) : Decidable (shape.Covers keys) :=
  decidable_of_iff (keys.Nodup ∧ (∀ key ∈ keys, key ∈ shape.required ++ shape.optional) ∧
    ∀ key ∈ shape.required, key ∈ keys)
    ⟨fun h => ⟨h.1, h.2.1, h.2.2⟩, fun h => ⟨h.1, h.2, h.3⟩⟩

variable {shape : RecordShape} {members : Members}

theorem fit_ok (known : ∀ m ∈ members, m.1 ∈ shape.required ++ shape.optional)
    (required : ∀ key ∈ shape.required, key ∈ members.map (·.1)) :
    shape.fit members = .ok members := by
  have no_other : members.find? (fun m => !(m.1 ∈ shape.required ++ shape.optional)) = none := by
    rw [List.find?_eq_none]
    intro m hm
    simpa [or_iff_not_imp_left] using known m hm
  have none_missing : (shape.required.filter fun key => (lookup key members).isNone) = [] := by
    rw [List.filter_eq_nil_iff]
    intro key hkey
    have there := Json.isSome_lookup_iff.mpr (required key hkey)
    rw [Option.isNone_iff_eq_none]
    exact fun absent => by simp [absent] at there
  simp only [RecordShape.fit, no_other, none_missing, List.isEmpty_nil, if_true]

/-- The members of an object with the keys of a record fit the record in any order, and under each
key stands what stood there. -/
theorem exists_members {f : Json → Json} (reorders : IsReordering f) (members : Members)
    (covers : shape.Covers (members.map (·.1))) :
    ∃ m, f (.object members) = .object m ∧ shape.fit m = .ok m ∧
      ∀ key, lookup key m = (lookup key members).map f := by
  obtain ⟨m, written, same⟩ := reorders.object covers.distinct
  have keys : ∀ key, key ∈ m.map (·.1) ↔ key ∈ members.map (·.1) := by
    intro key
    rw [(same.map _).mem_iff, List.map_map]
    rfl
  refine ⟨m, written, fit_ok (fun e he => ?_) fun key hkey => ?_,
    Json.lookup_of_perm covers.distinct same⟩
  · exact covers.known e.1 ((keys e.1).mp (List.mem_map_of_mem he))
  · exact (keys key).mpr (covers.required key hkey)

theorem asText_strings (l : List String) : (l.map Json.string).map (·.asText) = l := by
  rw [List.map_map]
  exact List.map_id l

/-- Items that are read one by one as what they were made of are read as the whole list. -/
theorem mapM_reordered {α ε : Type} {f : Json → Json} {write : α → Json} {read : Json → Except ε α}
    {l : List α} (reads : ∀ a ∈ l, read (f (write a)) = .ok a) :
    (l.map fun a => f (write a)).mapM read = .ok l := by
  have all : (l.map fun a => f (write a)).mapM read = .ok (l.map id) := mapM_ok reads
  rwa [List.map_id] at all

/-! ## Values under keys -/

variable {f : Json → Json} (reorders : IsReordering f)
include reorders

theorem reordered_array_map {α : Type} (write : α → Json) (l : List α) :
    f (.array (l.map write)) = .array (l.map fun a => f (write a)) := by
  rw [reorders.array, List.map_map]
  rfl

theorem reordered_strings (l : List String) : f (Json.strings l) = Json.strings l := by
  rw [Json.strings, reordered_array_map reorders]
  simp only [reorders.string]

theorem reordered_optionalString (o : Option String) :
    f (Json.optionalString o) = Json.optionalString o := by
  cases o with
  | none => exact reorders.null
  | some s => exact reorders.string s

section

variable {m : Members} {key : String}

theorem text_of_lookup {s : String} (h : lookup key m = some (f (.string s)))
    (fallback : String) : text key fallback m = s := by
  rw [text, h, reorders.string]
  rfl

theorem required_of_lookup {s : String} (h : lookup key m = some (f (.string s))) :
    required key m = .ok s := by
  rw [required, h, reorders.string]
  rfl

theorem valueAt_of_lookup {s : String} (h : lookup key m = some (f (.string s)))
    (fallback : Json) : valueAt key fallback (.object m) = .string s := by
  rw [valueAt, Json.get?, h, reorders.string]
  rfl

theorem flag_of_lookup {b : Bool} (h : lookup key m = some (f (.bool b))) (fallback : Bool) :
    flag key fallback m = b := by
  rw [flag, DeclarationReader.flag, h, reorders.bool]
  rfl

theorem optionalText_of_lookup {o : Option String}
    (h : lookup key m = some (f (.optionalString o))) :
    DeclarationReader.optionalText key m = o := by
  rw [DeclarationReader.optionalText, h, reordered_optionalString reorders]
  cases o <;> rfl

theorem number_of_lookup {n : Number} (h : lookup key m = some (f (.number n)))
    (fallback : Number) : number key fallback m = n := by
  rw [number, h, reorders.number]

theorem listAt_of_lookup {α : Type} {write : α → Json} {l : List α}
    (h : lookup key m = some (f (.array (l.map write)))) :
    listAt key m = .ok (l.map fun a => f (write a)) := by
  rw [listAt, h, reordered_array_map reorders]
  rfl

theorem texts_of_lookup {l : List String} (h : lookup key m = some (f (.strings l))) :
    listAt key m = .ok (l.map Json.string) := by
  rw [listAt, h, reordered_strings reorders]
  rfl

end

/-! ## Records of a graph -/

theorem field_reordered (d : FieldDeclaration) : field (f d.toJson) = .ok d := by
  have keys : fieldShape.Covers ["name", "declared_type", "mutable"] := by decide
  obtain ⟨m, written, fits, at_key⟩ := exists_members reorders [("name", .string d.name),
    ("declared_type", .optionalString d.declaredType), ("mutable", .bool d.isMutable)] keys
  rw [FieldDeclaration.toJson, written, field, record, fits]
  show Except.ok (FieldDeclaration.mk (text "name" "" m)
    (DeclarationReader.optionalText "declared_type" m) (flag "mutable" true m)) = .ok d
  rw [text_of_lookup reorders (at_key "name"),
    optionalText_of_lookup reorders (at_key "declared_type"),
    flag_of_lookup reorders (at_key "mutable")]

theorem method_reordered {d : MethodDeclaration} (canonical : d.Canonical) :
    method (f d.toJson) = .ok d := by
  have keys : methodShape.Covers ["name", "signature", "visibility", "is_static", "is_accessor",
    "is_abstract", "parameter_types", "return_type"] := by decide
  obtain ⟨m, written, fits, at_key⟩ := exists_members reorders [("name", .string d.name),
    ("signature", .string d.signature), ("visibility", .string d.visibility.word),
    ("is_static", .bool d.isStatic), ("is_accessor", .bool d.isAccessor),
    ("is_abstract", .bool d.isAbstract), ("parameter_types", .strings d.parameterTypes),
    ("return_type", .optionalString d.returnType)] keys
  have parameterTypes : lookup "parameter_types" m = some (.strings d.parameterTypes) :=
    (at_key "parameter_types").trans (congrArg some (reordered_strings reorders _))
  have listed : items ((lookup "parameter_types" m).getD (.array [])) =
      .ok (d.parameterTypes.map Json.string) := by
    rw [parameterTypes]
    rfl
  rw [MethodDeclaration.toJson, written, method]
  simp only [pure_bind, listed, fits]
  show Except.ok (MethodDeclaration.mk (text "name" "" m) (text "signature" "" m)
    (.ofWord (text "visibility" "public" m)) (flag "is_static" false m)
    (flag "is_accessor" false m) (flag "is_abstract" false m)
    ((d.parameterTypes.map Json.string).map (·.asText))
    (DeclarationReader.optionalText "return_type" m)) = .ok d
  rw [text_of_lookup reorders (at_key "name"), text_of_lookup reorders (at_key "signature"),
    text_of_lookup reorders (at_key "visibility"), flag_of_lookup reorders (at_key "is_static"),
    flag_of_lookup reorders (at_key "is_accessor"), flag_of_lookup reorders (at_key "is_abstract"),
    asText_strings, optionalText_of_lookup reorders (at_key "return_type"), canonical]

theorem symbol_reordered {s : Symbol} (canonical : s.Canonical) :
    symbol (f s.toJson) = .ok s := by
  have keys : symbolShape.Covers ["symbol_id", "name", "qualified_name", "namespace", "kind",
    "origin_path", "language", "fields", "methods", "bases", "value_equality",
    "is_abstract"] := by decide
  obtain ⟨m, written, fits, at_key⟩ := exists_members reorders [("symbol_id", .string s.id),
    ("name", .string s.name), ("qualified_name", .string s.qualifiedName),
    ("namespace", .string s.nameSpace), ("kind", .string s.kind.word),
    ("origin_path", .string s.originPath), ("language", .string s.language),
    ("fields", .array (s.fields.map (·.toJson))), ("methods", .array (s.methods.map (·.toJson))),
    ("bases", .strings s.bases), ("value_equality", .bool s.valueEquality),
    ("is_abstract", .bool s.isAbstract)] keys
  have fields : listAt "fields" m = .ok (s.fields.map fun d => f d.toJson) :=
    listAt_of_lookup reorders (at_key "fields")
  have methods : listAt "methods" m = .ok (s.methods.map fun d => f d.toJson) :=
    listAt_of_lookup reorders (at_key "methods")
  have bases : listAt "bases" m = .ok (s.bases.map Json.string) :=
    texts_of_lookup reorders (at_key "bases")
  have read_fields : (s.fields.map fun d => f d.toJson).mapM field = .ok s.fields :=
    mapM_reordered fun d _ => field_reordered reorders d
  have read_methods : (s.methods.map fun d => f d.toJson).mapM method = .ok s.methods :=
    mapM_reordered fun d hd => method_reordered reorders (canonical.methods d hd)
  rw [Symbol.toJson, written, symbol]
  simp only [mapping, fields, read_fields, methods, read_methods, bases, fits, bind, Except.bind]
  show Except.ok (Symbol.mk (text "symbol_id" "" m) (text "name" "" m)
    (text "qualified_name" "" m) (text "namespace" "" m) (.ofWord (text "kind" "" m))
    (text "origin_path" "" m) (text "language" "" m) s.fields s.methods
    ((s.bases.map Json.string).map (·.asText)) (flag "value_equality" false m)
    (flag "is_abstract" false m)) = .ok s
  rw [text_of_lookup reorders (at_key "symbol_id"), text_of_lookup reorders (at_key "name"),
    text_of_lookup reorders (at_key "qualified_name"),
    text_of_lookup reorders (at_key "namespace"), text_of_lookup reorders (at_key "kind"),
    text_of_lookup reorders (at_key "origin_path"),
    text_of_lookup reorders (at_key "language"), asText_strings,
    flag_of_lookup reorders (at_key "value_equality"),
    flag_of_lookup reorders (at_key "is_abstract"), canonical.kind]

theorem relationship_reordered {e : Relationship} (canonical : e.Canonical) :
    relationship (f e.toJson) = .ok e := by
  have keys : relationshipShape.Covers ["source_id", "target_id", "kind", "cardinality",
    "via"] := by decide
  obtain ⟨m, written, fits, at_key⟩ := exists_members reorders [("source_id", .string e.sourceId),
    ("target_id", .string e.targetId), ("kind", .string e.kind.word),
    ("cardinality", .string e.cardinality.word), ("via", .string e.via)] keys
  rw [Relationship.toJson, written, relationship, record, fits]
  show Except.ok (Relationship.mk (text "source_id" "" m) (text "target_id" "" m)
    (.ofWord (text "kind" "" m)) (.ofWord (text "cardinality" "one" m)) (text "via" "" m)) = .ok e
  rw [text_of_lookup reorders (at_key "source_id"), text_of_lookup reorders (at_key "target_id"),
    text_of_lookup reorders (at_key "kind"), text_of_lookup reorders (at_key "cardinality"),
    text_of_lookup reorders (at_key "via"), canonical.kind, canonical.cardinality]

theorem keyedSymbol_reordered (s : Symbol) : keyedSymbol (f s.toJson) = .ofSymbol s := by
  have keys : symbolShape.Covers ["symbol_id", "name", "qualified_name", "namespace", "kind",
    "origin_path", "language", "fields", "methods", "bases", "value_equality",
    "is_abstract"] := by decide
  obtain ⟨m, written, -, at_key⟩ := exists_members reorders [("symbol_id", .string s.id),
    ("name", .string s.name), ("qualified_name", .string s.qualifiedName),
    ("namespace", .string s.nameSpace), ("kind", .string s.kind.word),
    ("origin_path", .string s.originPath), ("language", .string s.language),
    ("fields", .array (s.fields.map (·.toJson))), ("methods", .array (s.methods.map (·.toJson))),
    ("bases", .strings s.bases), ("value_equality", .bool s.valueEquality),
    ("is_abstract", .bool s.isAbstract)] keys
  rw [Symbol.toJson, written, keyedSymbol, valueAt_of_lookup reorders (at_key "symbol_id"),
    valueAt_of_lookup reorders (at_key "name"),
    valueAt_of_lookup reorders (at_key "qualified_name")]
  rfl

theorem keyedEdge_reordered (e : Relationship) : keyedEdge (f e.toJson) = .ofRelationship e := by
  have keys : relationshipShape.Covers ["source_id", "target_id", "kind", "cardinality",
    "via"] := by decide
  obtain ⟨m, written, -, at_key⟩ := exists_members reorders [("source_id", .string e.sourceId),
    ("target_id", .string e.targetId), ("kind", .string e.kind.word),
    ("cardinality", .string e.cardinality.word), ("via", .string e.via)] keys
  rw [Relationship.toJson, written, keyedEdge, valueAt_of_lookup reorders (at_key "source_id"),
    valueAt_of_lookup reorders (at_key "target_id"),
    valueAt_of_lookup reorders (at_key "kind"),
    valueAt_of_lookup reorders (at_key "cardinality"),
    valueAt_of_lookup reorders (at_key "via")]
  rfl

/-! ## Classifications -/

theorem alternate_reordered {a : Alternate} (canonical : Role.ofWord a.role.word = a.role) :
    alternate (f (Classification.alternateJson a)) = .ok a := by
  have keys : alternateShape.Covers ["role", "score"] := by decide
  obtain ⟨m, written, fits, at_key⟩ := exists_members reorders [("role", .string a.role.word),
    ("score", .number a.score)] keys
  rw [Classification.alternateJson, written, alternate, record, fits]
  show Except.ok (Alternate.mk (.ofWord (text "role" "" m)) (number "score" (.int 0) m)) = .ok a
  rw [text_of_lookup reorders (at_key "role"), number_of_lookup reorders (at_key "score"),
    canonical]

theorem classification_reordered {c : Classification} (canonical : c.Canonical) :
    classification (f c.toJson) = .ok c := by
  have keys : classificationShape.Covers ["symbol_id", "role", "confidence", "score", "support",
    "alternates", "evidence", "ambiguous", "rationale"] := by decide
  obtain ⟨m, written, fits, at_key⟩ := exists_members reorders [("symbol_id", .string c.symbolId),
    ("role", .string c.role.word), ("confidence", .string c.confidence.word),
    ("score", .number c.score), ("support", .number c.support),
    ("alternates", .array (c.alternates.map Classification.alternateJson)),
    ("evidence", .strings c.evidence), ("ambiguous", .bool c.ambiguous),
    ("rationale", .string c.rationale)] keys
  have alternates : listAt "alternates" m =
      .ok (c.alternates.map fun a => f (Classification.alternateJson a)) :=
    listAt_of_lookup reorders (at_key "alternates")
  have evidence : listAt "evidence" m = .ok (c.evidence.map Json.string) :=
    texts_of_lookup reorders (at_key "evidence")
  have read_alternates : (c.alternates.map fun a => f (Classification.alternateJson a)).mapM
      alternate = .ok c.alternates :=
    mapM_reordered fun a ha => alternate_reordered reorders (canonical.alternates a ha)
  rw [Classification.toJson, written, classification]
  simp only [mapping, alternates, read_alternates, evidence, fits, bind, Except.bind]
  show Except.ok (Classification.mk (text "symbol_id" "" m) (.ofWord (text "role" "" m))
    (.ofWord (text "confidence" "" m)) (number "score" (.int 0) m)
    (number "support" (.float 1) m) c.alternates
    ((c.evidence.map Json.string).map (·.asText)) (flag "ambiguous" false m)
    (text "rationale" "" m)) = .ok c
  rw [text_of_lookup reorders (at_key "symbol_id"), text_of_lookup reorders (at_key "role"),
    text_of_lookup reorders (at_key "confidence"), number_of_lookup reorders (at_key "score"),
    number_of_lookup reorders (at_key "support"), asText_strings,
    flag_of_lookup reorders (at_key "ambiguous"), text_of_lookup reorders (at_key "rationale"),
    canonical.role, canonical.confidence]

/-! ## Sorts of values -/

section

variable {members : Members} (distinct : (members.map (·.1)).Nodup) {key : String}
include distinct

theorem get?_reordered : (f (.object members)).get? key = (lookup key members).map f := by
  obtain ⟨m, written, same⟩ := reorders.object distinct
  rw [written]
  exact Json.lookup_of_perm distinct same key

theorem itemsAt_reordered {α : Type} {write : α → Json} {l : List α}
    (there : lookup key members = some (.array (l.map write))) :
    itemsAt key (f (.object members)) = l.map fun a => f (write a) := by
  rw [itemsAt, get?_reordered reorders distinct, there, Option.map_some,
    reordered_array_map reorders]
  rfl

theorem fits_reordered {sorts : MemberSorts}
    (admits : ∀ e ∈ sorts, (lookup e.1 members).all fun v => e.2.admits (f v)) :
    fits sorts (f (.object members)) = true := by
  refine List.all_eq_true.mpr fun e he => ?_
  show ((f (.object members)).get? e.1).all e.2.admits = true
  rw [get?_reordered reorders distinct, Option.all_map]
  exact admits e he

end

theorem admits_text (s : String) : MemberSort.text.admits (f (.string s)) = true := by
  rw [reorders.string]
  rfl

theorem admits_optionalText (o : Option String) :
    MemberSort.optionalText.admits (f (.optionalString o)) = true := by
  rw [reordered_optionalString reorders]
  cases o <;> rfl

theorem admits_flag (b : Bool) : MemberSort.flag.admits (f (.bool b)) = true := by
  rw [reorders.bool]
  rfl

theorem admits_number (n : Number) : MemberSort.number.admits (f (.number n)) = true := by
  rw [reorders.number]
  rfl

theorem admits_texts (l : List String) : MemberSort.texts.admits (f (.strings l)) = true := by
  rw [reordered_strings reorders]
  simp [MemberSort.admits, items, DeclarationReader.items, Json.strings, Except.toOption]

theorem fits_field (d : FieldDeclaration) : fits fieldSorts (f d.toJson) = true := by
  refine fits_reordered reorders (by simp) ?_
  simp only [fieldSorts, List.forall_mem_cons]
  exact ⟨admits_text reorders _, admits_optionalText reorders _, admits_flag reorders _, nofun⟩

theorem fits_method (d : MethodDeclaration) : fits methodSorts (f d.toJson) = true := by
  refine fits_reordered reorders (by simp) ?_
  simp only [methodSorts, List.forall_mem_cons]
  exact ⟨admits_text reorders _, admits_text reorders _, admits_text reorders _,
    admits_flag reorders _, admits_flag reorders _, admits_flag reorders _,
    admits_texts reorders _, admits_optionalText reorders _, nofun⟩

theorem fits_symbol (s : Symbol) : fits symbolSorts (f s.toJson) = true := by
  refine fits_reordered reorders (by simp) ?_
  simp only [symbolSorts, List.forall_mem_cons]
  exact ⟨admits_text reorders _, admits_text reorders _, admits_text reorders _,
    admits_text reorders _, admits_text reorders _, admits_text reorders _,
    admits_text reorders _, admits_texts reorders _, admits_flag reorders _,
    admits_flag reorders _, nofun⟩

theorem fits_relationship (e : Relationship) : fits relationshipSorts (f e.toJson) = true := by
  refine fits_reordered reorders (by simp) ?_
  simp only [relationshipSorts, List.forall_mem_cons]
  exact ⟨admits_text reorders _, admits_text reorders _, admits_text reorders _,
    admits_text reorders _, admits_text reorders _, nofun⟩

theorem fits_alternate (a : Alternate) :
    fits alternateSorts (f (Classification.alternateJson a)) = true := by
  refine fits_reordered reorders (by simp) ?_
  simp only [alternateSorts, List.forall_mem_cons]
  exact ⟨admits_text reorders _, admits_number reorders _, nofun⟩

theorem fits_classification (c : Classification) :
    fits classificationSorts (f c.toJson) = true := by
  refine fits_reordered reorders (by simp) ?_
  simp only [classificationSorts, List.forall_mem_cons]
  exact ⟨admits_text reorders _, admits_text reorders _, admits_text reorders _,
    admits_number reorders _, admits_number reorders _, admits_texts reorders _,
    admits_flag reorders _, admits_text reorders _, nofun⟩

/-- The document of a baseline holds what it is declared to hold, in whatever order the members
stand. -/
theorem isTyped_reordered (b : Baseline) : isTyped (f b.toJson) = true := by
  have items {α : Type} {members : Members} {key : String} {write : α → Json} {l : List α}
      {admits : Json → Bool} (distinct : (members.map (·.1)).Nodup)
      (there : lookup key members = some (.array (l.map write)))
      (each : ∀ a, admits (f (write a)) = true) :
      (itemsAt key (f (.object members))).all admits = true := by
    rw [itemsAt_reordered reorders distinct there, List.all_map]
    exact List.all_eq_true.mpr fun a _ => each a
  have fields (s : Symbol) : (itemsAt "fields" (f s.toJson)).all (fits fieldSorts) = true :=
    items (by simp) rfl (fits_field reorders)
  have methods (s : Symbol) : (itemsAt "methods" (f s.toJson)).all (fits methodSorts) = true :=
    items (by simp) rfl (fits_method reorders)
  have alternates (c : Classification) :
      (itemsAt "alternates" (f c.toJson)).all (fits alternateSorts) = true :=
    items (by simp) rfl (fits_alternate reorders)
  unfold isTyped
  rw [Bool.and_eq_true, Bool.and_eq_true]
  refine ⟨⟨items (by simp) rfl fun s => ?_, items (by simp) rfl (fits_relationship reorders)⟩,
    items (by simp) rfl fun c => ?_⟩
  · rw [fits_symbol reorders, fields, methods]
    rfl
  · rw [fits_classification reorders, alternates]
    rfl

end BaselineReader

end TacticalDesign
