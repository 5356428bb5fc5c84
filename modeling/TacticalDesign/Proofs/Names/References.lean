import TacticalDesign.Proofs.Names.Spelling
import TacticalDesign.Shape
/-!
# Fields named for an identity

A field whose name ends in an identity word refers by identity to what the words before it name,
unless this identity is that of the symbol itself. Nothing but the words of the name counts, so the
field refers to the same name in every spelling from which its words are read back.
-/

namespace TacticalDesign

open Text NameWords

namespace Symbol

def IsTypedByIdentity (s : Symbol) (field : FieldDeclaration) : Prop :=
  ∃ name, (TypeReference.of field.declaredType).names = [name] ∧
    normalizeName (SymbolGraph.simpleName name) = normalizeName s.name ++ "id"

variable {s : Symbol} {field : FieldDeclaration} {owner : List String} {last : String}

instance : Decidable (s.IsTypedByIdentity field) :=
  match names : (TypeReference.of field.declaredType).names with
  | [] => isFalse (by simp [IsTypedByIdentity, names])
  | [name] =>
      decidable_of_iff
        (normalizeName (SymbolGraph.simpleName name) = normalizeName s.name ++ "id")
        (by simp [IsTypedByIdentity, names])
  | _ :: _ :: _ => isFalse (by simp [IsTypedByIdentity, names])

/-- A field that is named for an identity carries that of the symbol when its name has no more than
the identity word, or names the symbol before it, or when its type says so. -/
theorem ownsIdentityField_iff (ends : splitWords field.name = owner ++ [last])
    (identity : last ∈ identityWords) : s.ownsIdentityField field = true ↔
      owner = [] ∨ String.join owner = normalizeName s.name ∨ s.IsTypedByIdentity field := by
  rw [IsTypedByIdentity, ownsIdentityField, ends]
  cases owner with
  | nil =>
      refine iff_of_true ?_ (.inl rfl)
      simp [identity]
  | cons word owner =>
      obtain ⟨second, others, more⟩ : ∃ second others, owner ++ [last] = second :: others :=
        List.exists_cons_of_ne_nil (List.append_ne_nil_of_right_ne_nil owner (by simp))
      have final : (word :: second :: others).getLast? = some last := by
        rw [← more, ← List.cons_append, List.getLast?_concat]
      have front : (word :: second :: others).dropLast = word :: owner := by
        rw [← more, ← List.cons_append, List.dropLast_concat]
      rw [List.cons_append, more]
      -- only a type that mentions a single name can be that of the identity
      rcases names : (TypeReference.of field.declaredType).names with _ | ⟨name, _ | ⟨other, names⟩⟩
        <;> simp [final, front, identity]

theorem identityOwner?_append (some_word : owner ≠ []) (identity : last ∈ identityWords) :
    identityOwner? (owner ++ [last]) = some (String.join owner) := by
  have two : 2 ≤ (owner ++ [last]).length := by
    have := List.length_pos_iff.mpr some_word
    rw [List.length_append, List.length_singleton]
    omega
  rw [identityOwner?, List.getLast?_concat, List.dropLast_concat]
  exact if_pos ⟨identity, two⟩

/-- A field that is named for an identity refers to what its name says before the identity word,
unless the identity is that of the symbol. -/
theorem identityReferenceTarget_iff (ends : splitWords field.name = owner ++ [last])
    (identity : last ∈ identityWords) (target : String) :
    s.identityReferenceTarget field = some target ↔
      owner ≠ [] ∧ String.join owner = target ∧ target ≠ normalizeName s.name ∧
        ¬s.IsTypedByIdentity field := by
  have owns : s.ownsIdentityField field = true ↔ _ := ownsIdentityField_iff ends identity
  rw [identityReferenceTarget, ends]
  by_cases own : s.ownsIdentityField field = true
  · rw [if_pos own]
    refine iff_of_false (Option.some_ne_none target).symm ?_
    rintro ⟨some_word, rfl, other, untyped⟩
    rcases owns.mp own with empty | same | typed
    · exact some_word empty
    · exact other same
    · exact untyped typed
  · obtain ⟨some_word, named⟩ := not_or.mp (mt owns.mpr own)
    obtain ⟨other, untyped⟩ := not_or.mp named
    rw [if_neg own, identityOwner?_append some_word identity, Option.some_or, Option.some_inj]
    constructor
    · rintro rfl
      exact ⟨some_word, rfl, other, untyped⟩
    · exact fun h => h.2.1

end Symbol

/-- Words of two small letters or more are read back from every spelling of the name that they make
up. So a field whose words end in an identity word refers to the same name by identity in every
spelling: to the words before the identity word, if there are any, unless they name the symbol
itself or the field has the type of the symbol's identity. -/
theorem spellings_agree {words : List String}
    (small : ∀ w ∈ words, 2 ≤ w.length ∧ ∀ c ∈ w.toList, isAsciiLower c = true) :
    (∀ spelling : Spelling, splitWords (spelling.name words) = words) ∧
    ∀ (s : Symbol) (field : FieldDeclaration) (owner : List String) (last : String),
      words = owner ++ [last] → last ∈ identityWords →
      (∀ spelling other : Spelling,
        s.identityReferenceTarget { field with name := spelling.name words } =
          s.identityReferenceTarget { field with name := other.name words }) ∧
      ∀ (spelling : Spelling) (target : String),
        s.identityReferenceTarget { field with name := spelling.name words } = some target ↔
          owner ≠ [] ∧ String.join owner = target ∧ target ≠ normalizeName s.name ∧
            ¬s.IsTypedByIdentity field := by
  have back : ∀ spelling : Spelling, splitWords (spelling.name words) = words := by
    intro spelling
    exact (splitWords_name_iff (fun w hw => isWord_of_length (small w hw)) spelling).mpr
      (spelling.isChain_apart fun w hw => (small w hw).1)
  refine ⟨back, fun s field owner last ends identity => ?_⟩
  have refers : ∀ (spelling : Spelling) (target : String),
      s.identityReferenceTarget { field with name := spelling.name words } = some target ↔
        owner ≠ [] ∧ String.join owner = target ∧ target ≠ normalizeName s.name ∧
          ¬s.IsTypedByIdentity field := by
    intro spelling
    have read : splitWords (spelling.name words) = owner ++ [last] := (back spelling).trans ends
    exact Symbol.identityReferenceTarget_iff read identity
  refine ⟨fun spelling other => ?_, refers⟩
  exact Option.ext fun target => (refers spelling target).trans (refers other target).symm

/-- A field of a cart that refers to a line of an order. -/
theorem spellings_agree_orderLine :
    let words := ["order", "line", "id"]
    let cart : Symbol :=
      { id := "cart.java::Cart", name := "Cart", qualifiedName := "Cart", kind := .classType,
        nameSpace := "", originPath := "cart.java", language := "java" }
    let field : FieldDeclaration := { name := "", declaredType := some "LineNumber" }
    (∀ w ∈ words, 2 ≤ w.length ∧ ∀ c ∈ w.toList, isAsciiLower c = true) ∧
      words = ["order", "line"] ++ ["id"] ∧ "id" ∈ identityWords ∧
      (∀ spelling : Spelling, splitWords (spelling.name words) = words) ∧
      ∀ spelling : Spelling,
        cart.identityReferenceTarget { field with name := spelling.name words } =
          some "orderline" := by
  intro words cart field
  have letters : ∀ w ∈ words, 2 ≤ w.length ∧ w.toList.all isAsciiLower = true := by decide
  have small : ∀ w ∈ words, 2 ≤ w.length ∧ ∀ c ∈ w.toList, isAsciiLower c = true := fun w hw =>
    ⟨(letters w hw).1, List.all_eq_true.mp (letters w hw).2⟩
  have identity : "id" ∈ identityWords := by decide
  have agree := spellings_agree small
  have untyped : ¬cart.IsTypedByIdentity field := by decide
  refine ⟨small, rfl, identity, agree.1, fun spelling => ?_⟩
  have refers := (agree.2 cart field ["order", "line"] "id" rfl identity).2 spelling "orderline"
  exact refers.mpr ⟨by decide, by decide, by decide, untyped⟩

end TacticalDesign
