import TacticalDesign.AntiPattern
import TacticalDesign.Proofs.Order
import TacticalDesign.RelationshipDerivation
/-!
# Types that are one primitive

A type that counts as one primitive mentions no names, so a field of such a type has no edges but
those that it has by its name. It holds one value unless an array suffix stands in it: the brackets
behind a primitive are not looked at.
-/

namespace TacticalDesign

open Text

theorem isInfix_iff {part cs : List Char} : isInfix part cs = true ↔ part <:+: cs := by
  induction cs with
  | nil => rw [isInfix, List.isEmpty_iff, List.infix_nil]
  | cons c cs ih =>
      rw [isInfix, Bool.or_eq_true, ih, List.isPrefixOf_iff_prefix, List.infix_cons_iff]

namespace TypeText

theorem hasArraySuffix_iff {text : String} :
    hasArraySuffix text = true ↔ "[]".toList <:+: text.toList := isInfix_iff

theorem wrapper_or_primitive {text : String} (h : isPrimitiveType (some text) = true) :
    ∀ i ∈ identifiers text, lowerSimple i ∈ wrapperTypes ∨ lowerSimple i ∈ primitiveTypes := by
  simp only [isPrimitiveType] at h
  intro i hi
  by_cases wrapper : lowerSimple i ∈ wrapperTypes
  · exact .inl wrapper
  · have left : lowerSimple i ∈
        ((identifiers text).map lowerSimple).filter fun name => !(name ∈ wrapperTypes) :=
      List.mem_filter.mpr ⟨List.mem_map_of_mem hi, by simpa using wrapper⟩
    split at h
    · rename_i name alone
      rw [alone] at left
      rw [List.mem_singleton.mp left]
      exact .inr (of_decide_eq_true h)
    · cases h

theorem collections_apart :
    ∀ name ∈ wrapperTypes ++ primitiveTypes, name ∉ collectionTypes := by decide

theorem not_collection {text : String} (h : isPrimitiveType (some text) = true) {i : String}
    (hi : i ∈ identifiers text) : lowerSimple i ∉ collectionTypes :=
  collections_apart _ (List.mem_append.mpr (wrapper_or_primitive h i hi))

end TypeText

namespace TypeReference

open TypeText

variable {text : String} (h : isPrimitiveType (some text) = true)

include h

theorem names_of_primitive : (of (some text)).names = [] := by
  have ordinary : (identifiers text).filter isOrdinary = [] := by
    refine List.filter_eq_nil_iff.mpr fun i hi => ?_
    rcases wrapper_or_primitive h i hi with known | known <;> simp [isOrdinary, known]
  rw [of, ofText, ordinary]
  rfl

theorem cardinality_of_primitive :
    (of (some text)).cardinality = if hasArraySuffix text = true then .many else .one := by
  have single : (identifiers text).any (fun i => lowerSimple i ∈ collectionTypes) = false := by
    refine List.any_eq_false.mpr fun i hi => ?_
    simpa using not_collection h hi
  rw [of, ofText, single, Bool.or_false]

end TypeReference

namespace SymbolGraph

variable {f f' : FieldDeclaration}

theorem ownsIdentityField_congr (s : Symbol) (name : f.name = f'.name)
    (mentions : (TypeReference.of f.declaredType).names =
      (TypeReference.of f'.declaredType).names) :
    s.ownsIdentityField f = s.ownsIdentityField f' := by
  rw [Symbol.ownsIdentityField, Symbol.ownsIdentityField, name, mentions]

theorem identityReferenceTarget_congr (s : Symbol) (name : f.name = f'.name)
    (mentions : (TypeReference.of f.declaredType).names =
      (TypeReference.of f'.declaredType).names) :
    s.identityReferenceTarget f = s.identityReferenceTarget f' := by
  rw [Symbol.identityReferenceTarget, Symbol.identityReferenceTarget,
    ownsIdentityField_congr s name mentions, name, mentions]

/-- A field whose type mentions nothing has the edges that it has by its name alone. -/
theorem fieldEdges_of_unnamed (g : SymbolGraph) (s : Symbol)
    (none : (TypeReference.of f.declaredType).names = []) :
    g.fieldEdges s f = (g.fieldEdges s { f with declaredType := .none }).map fun e =>
      { e with cardinality := (TypeReference.of f.declaredType).cardinality } := by
  have target : s.identityReferenceTarget f =
      s.identityReferenceTarget { f with declaredType := .none } :=
    identityReferenceTarget_congr s rfl none
  have noType : g.typeEdges s f = [] := by
    rw [typeEdges, resolveType, none]
    rfl
  have noType' : g.typeEdges s { f with declaredType := .none } = [] := rfl
  rw [fieldEdges, fieldEdges, noType, noType', identityEdge, identityEdge, target]
  cases s.identityReferenceTarget { f with declaredType := .none } with
  | none => rfl
  | some name => cases found : g.symbolOfNormalName name s <;> simp [found]

end SymbolGraph

/-- A type that is one primitive mentions no names, and a field of this type has the edges that it
has without a type. It holds one value when no array suffix stands in it. -/
theorem TypeReference.of_primitive {text : String} (h : isPrimitiveType (some text) = true) :
    (TypeReference.of (some text)).names = [] ∧
      ((TypeReference.of (some text)).cardinality = .one ↔ ¬"[]".toList <:+: text.toList) ∧
      ∀ (g : SymbolGraph) (s : Symbol) (f : FieldDeclaration), f.declaredType = some text →
        g.fieldEdges s f = (g.fieldEdges s { f with declaredType := none }).map fun e =>
          { e with cardinality := (TypeReference.of (some text)).cardinality } := by
  have unnamed := names_of_primitive h
  refine ⟨unnamed, ?_, fun g s f typed => ?_⟩
  · rw [cardinality_of_primitive h, ← TypeText.hasArraySuffix_iff]
    cases TypeText.hasArraySuffix text <;> simp
  · rw [← typed] at unnamed ⊢
    exact SymbolGraph.fieldEdges_of_unnamed g s unnamed

/-- An optional number. -/
theorem TypeReference.of_primitive_optional :
    isPrimitiveType (some "Optional[BigDecimal]") = true ∧
      (TypeReference.of (some "Optional[BigDecimal]")).names = [] ∧
      ((TypeReference.of (some "Optional[BigDecimal]")).cardinality = .one ↔
        ¬"[]".toList <:+: "Optional[BigDecimal]".toList) := by
  have one : isPrimitiveType (some "Optional[BigDecimal]") = true := by decide
  exact ⟨one, (TypeReference.of_primitive one).1, (TypeReference.of_primitive one).2.1⟩

/-- A field that holds an array of numbers counts as one primitive. -/
theorem array_counts_as_primitive :
    let marks : FieldDeclaration := { name := "marks", declaredType := some "int[]" }
    let exam : Symbol :=
      { id := "a.java::Exam", name := "Exam", qualifiedName := "Exam", nameSpace := "",
        kind := .classType, originPath := "a.java", language := "java", fields := [marks] }
    isPrimitiveType marks.declaredType = true ∧ AntiPattern.primitiveFields exam = [marks] ∧
      (TypeReference.of marks.declaredType).cardinality = .many := by
  decide

end TacticalDesign
