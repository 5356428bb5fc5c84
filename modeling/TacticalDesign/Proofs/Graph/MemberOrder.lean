import Mathlib.Data.List.Forall2
import TacticalDesign.Proofs.Graph.Shrinking
import TacticalDesign.RuleCatalog
/-!
# Members in another order

The methods of a declaration, and its fields as far as they have different names, may come in any
order without anything changing for the graph: symbols have the same shapes, names mean what they
meant, and the same edges come of the fields.
-/

namespace TacticalDesign

/-! ## Lists with the same relation all along -/

section Related

variable {α β : Type} {R : α → β → Prop} {a : List α} {b : List β}

theorem find?_rel {p : α → Bool} {q : β → Bool} (related : List.Forall₂ R a b)
    (same : ∀ {x y}, R x y → p x = q y) : Option.Rel R (a.find? p) (b.find? q) := by
  induction related with
  | nil => exact .none
  | @cons x y _ _ xy _ ih =>
      rw [List.find?_cons, List.find?_cons, same xy]
      cases q y with
      | true => exact .some xy
      | false => exact ih

theorem or_rel {x x' : Option α} {y y' : Option β} (first : Option.Rel R x y)
    (second : Option.Rel R x' y') : Option.Rel R (x.or x') (y.or y') := by
  cases first with
  | some xy => exact .some xy
  | none => exact second

theorem firstPassing_rel {ps : List (α → Bool)} {qs : List (β → Bool)}
    (related : List.Forall₂ R a b)
    (same : List.Forall₂ (fun p q => ∀ {x y}, R x y → p x = q y) ps qs) :
    Option.Rel R (firstPassing ps a) (firstPassing qs b) := by
  induction same with
  | nil => exact .none
  | cons first _ ih =>
      rw [firstPassing_cons, firstPassing_cons]
      exact or_rel (find?_rel related first) ih

/-- What is the same of related items is the same of items that may be missing. -/
theorem map_eq_of_rel {γ : Type} {x : Option α} {y : Option β} {f : α → γ} {f' : β → γ}
    (related : Option.Rel R x y) (same : ∀ {x y}, R x y → f x = f' y) : x.map f = y.map f' := by
  cases related with
  | some xy => exact congrArg some (same xy)
  | none => rfl

theorem any_eq_of_rel {x : Option α} {y : Option β} {p : α → Bool} {q : β → Bool}
    (related : Option.Rel R x y) (same : ∀ {x y}, R x y → p x = q y) : x.any p = y.any q := by
  cases related with
  | some xy => exact same xy
  | none => rfl

theorem map_eq_of_forall₂ {γ : Type} {f : α → γ} {f' : β → γ} (related : List.Forall₂ R a b)
    (same : ∀ {x y}, R x y → f x = f' y) : a.map f = b.map f' := by
  induction related with
  | nil => rfl
  | cons xy _ ih => rw [List.map_cons, List.map_cons, same xy, ih]

theorem any_eq_of_forall₂ {p : α → Bool} {q : β → Bool} (related : List.Forall₂ R a b)
    (same : ∀ {x y}, R x y → p x = q y) : a.any p = b.any q := by
  induction related with
  | nil => rfl
  | cons xy _ ih => rw [List.any_cons, List.any_cons, same xy, ih]

theorem mem_flatMap_of_forall₂ {γ : Type} {f : α → List γ} {f' : β → List γ} {c : γ}
    (related : List.Forall₂ R a b) (same : ∀ {x y}, R x y → (c ∈ f x ↔ c ∈ f' y)) :
    c ∈ a.flatMap f ↔ c ∈ b.flatMap f' := by
  induction related with
  | nil => rfl
  | cons xy _ ih =>
      rw [List.flatMap_cons, List.flatMap_cons, List.mem_append, List.mem_append, same xy, ih]

end Related

/-! ## Declarations and symbols -/

/-- Two lists of fields that differ in their order at most, where fields of one name keep theirs. -/
structure FieldDeclaration.Reorders (a b : List FieldDeclaration) : Prop where
  perm : a.Perm b
  namesakes : ∀ name : String, a.filter (·.name = name) = b.filter (·.name = name)

theorem FieldDeclaration.reorders_of_nodup {a b : List FieldDeclaration} (perm : a.Perm b)
    (distinct : (a.map (·.name)).Nodup) : Reorders a b where
  perm := perm
  namesakes := by
    intro name
    have distinct' : (b.map (·.name)).Nodup := (perm.map _).nodup_iff.mp distinct
    by_cases there : name ∈ a.map (·.name)
    · obtain ⟨f, hf, rfl⟩ := List.mem_map.mp there
      rw [filter_key_eq_singleton FieldDeclaration.name distinct hf,
        filter_key_eq_singleton FieldDeclaration.name distinct' (perm.mem_iff.mp hf)]
    · have absent : name ∉ b.map (·.name) := fun h => there ((perm.map _).mem_iff.mpr h)
      rw [List.filter_eq_nil_iff.mpr, List.filter_eq_nil_iff.mpr]
      · exact fun f hf named => absent (of_decide_eq_true named ▸ List.mem_map_of_mem hf)
      · exact fun f hf named => there (of_decide_eq_true named ▸ List.mem_map_of_mem hf)

/-- Two declarations that differ in the order of their members at most, where fields of one name
keep theirs. -/
structure TypeDeclaration.Reorders (d e : TypeDeclaration) : Prop where
  name : d.name = e.name
  kind : d.kind = e.kind
  nameSpace : d.nameSpace = e.nameSpace
  fields : FieldDeclaration.Reorders d.fields e.fields
  methods : d.methods.Perm e.methods
  bases : d.bases = e.bases
  valueEquality : d.valueEquality = e.valueEquality
  isAbstract : d.isAbstract = e.isAbstract

structure Symbol.Reorders (s t : Symbol) : Prop where
  id : s.id = t.id
  name : s.name = t.name
  qualifiedName : s.qualifiedName = t.qualifiedName
  nameSpace : s.nameSpace = t.nameSpace
  kind : s.kind = t.kind
  originPath : s.originPath = t.originPath
  language : s.language = t.language
  fields : FieldDeclaration.Reorders s.fields t.fields
  methods : s.methods.Perm t.methods
  bases : s.bases = t.bases
  valueEquality : s.valueEquality = t.valueEquality
  isAbstract : s.isAbstract = t.isAbstract

theorem SourceUnit.symbolOf_reorders (u : SourceUnit) {d e : TypeDeclaration} (h : d.Reorders e) :
    (u.symbolOf d).Reorders (u.symbolOf e) := by
  have qualified : (u.symbolOf d).qualifiedName = (u.symbolOf e).qualifiedName := by
    simp only [symbolOf, h.name, h.nameSpace]
  exact {
    id := congrArg (symbolId u.path) qualified
    name := h.name
    qualifiedName := qualified
    nameSpace := h.nameSpace
    kind := h.kind
    originPath := rfl
    language := rfl
    fields := h.fields
    methods := h.methods
    bases := h.bases
    valueEquality := h.valueEquality
    isAbstract := by simp only [symbolOf, h.isAbstract, h.kind] }

namespace Symbol

namespace Reorders

variable {s t : Symbol} (h : s.Reorders t)

include h

/-! ## Shapes -/

theorem ownsIdentityField_eq : s.ownsIdentityField = t.ownsIdentityField := by
  funext field
  unfold ownsIdentityField
  rw [h.name]

theorem hasIdentity_eq : s.hasIdentity = t.hasIdentity := by
  rw [hasIdentity, hasIdentity, h.ownsIdentityField_eq, h.fields.perm.any_eq]

theorem identityReferenceTarget_eq :
    s.identityReferenceTarget = t.identityReferenceTarget := by
  funext field
  unfold identityReferenceTarget
  rw [h.ownsIdentityField_eq]

theorem ordinaryMethods_perm : s.ordinaryMethods.Perm t.ordinaryMethods := by
  have construct : s.isConstructor = t.isConstructor := by
    funext m
    rw [isConstructor, isConstructor, h.name]
  unfold ordinaryMethods
  rw [construct]
  exact h.methods.filter _

theorem behavioralMethods_perm : s.behavioralMethods.Perm t.behavioralMethods :=
  h.ordinaryMethods_perm.filter _

theorem nameEndsWith_eq : s.nameEndsWith = t.nameEndsWith := by
  funext suffixes
  unfold nameEndsWith
  rw [h.name]

theorem isStateless_eq : s.isStateless = t.isStateless := by
  rw [isStateless, isStateless, h.hasIdentity_eq, h.fields.perm.all_eq]

theorem allFieldsImmutable_eq : s.allFieldsImmutable = t.allFieldsImmutable := by
  rw [allFieldsImmutable, allFieldsImmutable, h.fields.perm.isEmpty_eq, h.fields.perm.all_eq]

theorem isInterfaceLike_eq : s.isInterfaceLike = t.isInterfaceLike := by
  have ordinary := h.methods.filter fun m => !isSpecialName m.name
  rw [isInterfaceLike, isInterfaceLike, h.kind, h.isAbstract]
  simp only [ordinary.isEmpty_eq, ordinary.all_eq]

end Reorders

end Symbol

namespace SymbolGraph

theorem nearTests_rel {candidate candidate' : Symbol → Bool} {s t : Symbol}
    (near : s.Reorders t)
    (same : ∀ {x y : Symbol}, x.Reorders y → candidate x = candidate' y) :
    List.Forall₂ (fun p q => ∀ {x y : Symbol}, x.Reorders y → p x = q y)
      (nearTests candidate s) (nearTests candidate' t) :=
  .cons (fun xy => by rw [same xy, xy.originPath, near.originPath])
    (.cons (fun xy => by rw [same xy, xy.nameSpace, near.nameSpace]) (.cons same .nil))

/-- Two graphs of symbols that differ in the order of their members at most, each graph with the
edges that its symbols give rise to. -/
structure Reorders (g g' : SymbolGraph) : Prop where
  symbols : List.Forall₂ Symbol.Reorders g.symbols g'.symbols
  derived : g.Derived
  derived' : g'.Derived

theorem reorders_of_get? {g g' : SymbolGraph}
    (related : ∀ id, Option.Rel Symbol.Reorders (g.get? id) (g'.get? id)) (derived : g.Derived)
    (derived' : g'.Derived) : g.Reorders g' where
  symbols := by
    have ids : g.ids = g'.ids := by
      apply eq_of_ascend id (List.pairwise_map.mpr g.symbols_ascend)
        (List.pairwise_map.mpr g'.symbols_ascend)
      intro id
      have missing : g.get? id = none ↔ g'.get? id = none := by
        have found := related id
        generalize g.get? id = x, g'.get? id = y at found
        cases found <;> simp
      rw [get?_eq_none_iff, get?_eq_none_iff] at missing
      exact not_iff_not.mp missing
    have keyed : List.Forall₂ (fun s t : Symbol => s.id = t.id) g.symbols g'.symbols := by
      rw [← List.forall₂_map_right_iff, ← List.forall₂_map_left_iff, List.forall₂_eq_eq_eq]
      exact ids
    rw [List.forall₂_iff_zip] at keyed ⊢
    refine ⟨keyed.1, fun {s t} both => ?_⟩
    obtain ⟨hs, ht⟩ := List.of_mem_zip both
    have st := related s.id
    rw [get?_iff.mpr ⟨hs, rfl⟩, get?_iff.mpr ⟨ht, (keyed.2 both).symm⟩] at st
    exact Option.rel_some_some.mp st
  derived := derived
  derived' := derived'

namespace Reorders

variable {g g' : SymbolGraph} (h : g.Reorders g') {s t : Symbol} (st : s.Reorders t)

include h

/-! ## Names -/

theorem get?_rel (id : String) : Option.Rel Symbol.Reorders (g.get? id) (g'.get? id) :=
  find?_rel h.symbols fun xy => by rw [xy.id]

theorem ids_eq : g.ids = g'.ids := map_eq_of_forall₂ h.symbols fun xy => xy.id

theorem of_id_eq {s t : Symbol} (hs : s ∈ g.symbols) (ht : t ∈ g'.symbols) (same : s.id = t.id) :
    s.Reorders t := by
  have related := h.get?_rel s.id
  rw [get?_iff.mpr ⟨hs, rfl⟩, get?_iff.mpr ⟨ht, same.symm⟩] at related
  exact Option.rel_some_some.mp related

include st

theorem lookup_eq (name : String) : g.lookup name (some s) = g'.lookup name (some t) := by
  have related : Option.Rel Symbol.Reorders (g.lookupSymbol name (some s))
      (g'.lookupSymbol name (some t)) := by
    rw [lookupSymbol_eq, lookupSymbol_eq]
    exact firstPassing_rel h.symbols (.cons (fun xy => by rw [xy.qualifiedName])
      (nearTests_rel st fun xy => by rw [xy.name]))
  exact map_eq_of_rel related fun xy => xy.id

theorem symbolOfNormalName_rel (name : String) :
    Option.Rel Symbol.Reorders (g.symbolOfNormalName name s) (g'.symbolOfNormalName name t) := by
  rw [symbolOfNormalName_eq, symbolOfNormalName_eq]
  exact firstPassing_rel h.symbols (nearTests_rel st fun xy => by rw [xy.name, xy.id, st.id])

theorem resolveType_eq : g.resolveType s = g'.resolveType t := by
  funext type
  simp only [resolveType, h.lookup_eq st, st.id]

theorem methodReferences_eq : g.methodReferences s = g'.methodReferences t := by
  funext m
  rw [methodReferences, methodReferences, h.resolveType_eq st]

/-! ## Edges -/

theorem identityEdge_eq : g.identityEdge s = g'.identityEdge t := by
  funext field
  unfold identityEdge
  rw [st.identityReferenceTarget_eq]
  refine congrArg _ (funext fun name => ?_)
  exact map_eq_of_rel (h.symbolOfNormalName_rel st name) fun xy => by rw [xy.id, st.id]

theorem typeEdges_eq : g.typeEdges s = g'.typeEdges t := by
  have owns_eq : ∀ {x y : Symbol}, x.Reorders y → owns s x = owns t y := by
    intro x y xy
    rw [owns, owns, xy.hasIdentity_eq, xy.name, st.name]
  funext field
  unfold typeEdges
  rw [h.resolveType_eq st, st.id]
  refine List.map_congr_left fun id _ => ?_
  rw [any_eq_of_rel (h.get?_rel id) owns_eq]

theorem mem_symbolEdges_iff (e : Relationship) :
    e ∈ g.symbolEdges s ↔ e ∈ g'.symbolEdges t := by
  have fields : g.fieldEdges s = g'.fieldEdges t := by
    funext field
    rw [fieldEdges, fieldEdges, h.identityEdge_eq st, h.typeEdges_eq st]
  have bases : g.baseEdge s = g'.baseEdge t := by
    funext base
    rw [baseEdge, baseEdge, h.lookup_eq st, st.id]
  rw [symbolEdges, symbolEdges, fields, bases, st.bases, List.mem_append, List.mem_append,
    (st.fields.perm.flatMap_right _).mem_iff]

omit st

theorem mem_relationships_iff (e : Relationship) :
    e ∈ g.relationships ↔ e ∈ g'.relationships := by
  rw [h.derived, h.derived', derivedEdges, derivedEdges]
  exact mem_flatMap_of_forall₂ h.symbols fun xy => h.mem_symbolEdges_iff xy e

theorem mem_incomingOf_iff (id : String) (kind : RelationshipKind) (e : Relationship) :
    e ∈ g.incomingOf id kind ↔ e ∈ g'.incomingOf id kind := by
  simp only [incomingOf, incoming, List.mem_filter, h.mem_relationships_iff]

theorem mem_outgoingOf_iff (id : String) (kind : RelationshipKind) (e : Relationship) :
    e ∈ g.outgoingOf id kind ↔ e ∈ g'.outgoingOf id kind := by
  simp only [outgoingOf, outgoing, List.mem_filter, h.mem_relationships_iff]

end Reorders

end SymbolGraph

end TacticalDesign
