import TacticalDesign.Document
import TacticalDesign.Project
import TacticalDesign.Proofs.Baseline.Records
import TacticalDesign.Proofs.Registry.Overrides
/-!
# Words of open vocabularies

A vocabulary keeps words that it does not know, so a known word could be kept in two ways. No reader
does that: what it makes of a word stands for itself, in the declarations of a document or of a
module and in the rules of a registry.
-/

namespace TacticalDesign

/-! ## Vocabularies -/

theorem Visibility.word_ofWord (w : String) : (ofWord w).word = w := by
  unfold ofWord
  split <;> rename_i h <;> try exact h.symm
  split <;> rename_i h <;> try exact h.symm
  split <;> rename_i h <;> first | exact h.symm | rfl

theorem Role.ofWord_word {r : Role} (known : r.isKnown = true) : ofWord r.word = r := by
  rw [ofWord, ofWord?_word known]
  rfl

theorem Level.ofWord_word {l : Level} (known : l.isKnown = true) : ofWord l.word = l := by
  cases l <;> first | rfl | cases known

/-! ## Declarations -/

structure TypeDeclaration.Canonical (d : TypeDeclaration) : Prop where
  kind : DeclarationKind.ofWord d.kind.word = d.kind
  methods : ∀ m ∈ d.methods, m.Canonical

def Extraction.Canonical (e : Extraction) : Prop :=
  ∀ declarations, e = .declared declarations → ∀ d ∈ declarations, d.Canonical

namespace DeclarationReader

theorem canonical_method {v : Json} {m : MethodDeclaration} (h : method v = .ok m) :
    m.Canonical := by
  obtain ⟨entry, -, h⟩ := bind_eq_ok.mp h
  obtain ⟨visibility, -, h⟩ := bind_eq_ok.mp h
  obtain ⟨name, -, h⟩ := bind_eq_ok.mp h
  obtain ⟨parameterTypes, -, h⟩ := bind_eq_ok.mp h
  cases h
  exact congrArg Visibility.ofWord (Visibility.word_ofWord visibility)

theorem canonical_declaration {v : Json} {d : TypeDeclaration} (h : declaration v = .ok d) :
    d.Canonical := by
  obtain ⟨entry, -, h⟩ := bind_eq_ok.mp h
  obtain ⟨kind, -, h⟩ := bind_eq_ok.mp h
  obtain ⟨name, -, h⟩ := bind_eq_ok.mp h
  obtain ⟨fieldItems, -, h⟩ := bind_eq_ok.mp h
  obtain ⟨fields, -, h⟩ := bind_eq_ok.mp h
  obtain ⟨methodItems, -, h⟩ := bind_eq_ok.mp h
  obtain ⟨methods, read, h⟩ := bind_eq_ok.mp h
  obtain ⟨bases, -, h⟩ := bind_eq_ok.mp h
  cases h
  refine ⟨congrArg DeclarationKind.ofWord (DeclarationKind.word_ofWord kind), fun m hm => ?_⟩
  obtain ⟨item, -, made⟩ := exists_of_mem_mapM read hm
  exact canonical_method made

end DeclarationReader

theorem Extraction.canonical_ofDocument (item : List (String × Json)) :
    (ofDocument item).Canonical := by
  intro declarations h d hd
  unfold ofDocument DeclarationReader.unit at h
  split at h
  · rename_i read
    cases h
    split at read
    · cases read
    · split at read
      · cases read
        cases hd
      · split at read
        · rename_i mapped
          cases read
          obtain ⟨entry, -, made⟩ := exists_of_mem_mapM mapped hd
          exact DeclarationReader.canonical_declaration made
        · cases read
      · cases read
  · cases h

namespace SourceUnit

theorem canonical_ofEntries {entries : List Json} {index : Nat} {units : List SourceUnit}
    (h : ofEntries index entries = .ok units) : ∀ u ∈ units, u.extraction.Canonical := by
  induction entries generalizing index units with
  | nil =>
      cases h
      simp
  | cons entry rest ih =>
      unfold ofEntries at h
      split at h
      · cases h
      · rename_i u hu
        split at h
        · cases h
        · rename_i later hlater
          cases h
          intro v hv
          rcases List.mem_cons.mp hv with rfl | hv
          · unfold ofEntry at hu
            split at hu
            · split at hu
              · cases hu
                exact Extraction.canonical_ofDocument _
              · cases hu
            · cases hu
          · exact ih hlater v hv

theorem canonical_ofDocument {content : Except FileError (List UInt8)} {units : List SourceUnit}
    (h : ofDocument content = .ok units) : ∀ u ∈ units, u.extraction.Canonical := by
  unfold ofDocument at h
  split at h
  · cases h
  · split at h
    · exact canonical_ofEntries h
    · cases h

end SourceUnit

/-! ## Modules -/

namespace Source

theorem canonical_visibilityOf (name : String) :
    Visibility.ofWord (visibilityOf name).word = visibilityOf name := by
  simp only [visibilityOf]
  split
  · rfl
  · split
    · rfl
    · split <;> rfl

theorem canonical_methodOf {isInterface : Bool} {s : Statement} {m : MethodDeclaration}
    (h : methodOf isInterface s = .ok (some m)) : m.Canonical := by
  unfold methodOf at h
  split at h
  · obtain ⟨returnText, -, h⟩ := bind_eq_ok.mp h
    obtain ⟨parameterText, -, h⟩ := bind_eq_ok.mp h
    obtain ⟨parameterTypes, -, h⟩ := bind_eq_ok.mp h
    cases h
    exact canonical_visibilityOf _
  · cases h

theorem canonical_ite {p : Prop} [Decidable p] {a b : DeclarationKind}
    (ha : DeclarationKind.ofWord a.word = a) (hb : DeclarationKind.ofWord b.word = b) :
    DeclarationKind.ofWord (if p then a else b).word = if p then a else b := by
  split
  · exact ha
  · exact hb

theorem canonical_classDeclaration {nameSpace name : String} {decorators bases : List Expr}
    {keywords : List Keyword} {body : List Statement} {d : TypeDeclaration}
    (h : classDeclaration nameSpace name decorators bases keywords body = .ok d) :
    d.Canonical := by
  obtain ⟨baseTexts, -, h⟩ := bind_eq_ok.mp h
  obtain ⟨metaclass, -, h⟩ := bind_eq_ok.mp h
  obtain ⟨methods, read, h⟩ := bind_eq_ok.mp h
  have parts : DeclarationKind.ofWord d.kind.word = d.kind ∧ d.methods = methods.filterMap id := by
    obtain ⟨fields, -, h⟩ := ite_bind_eq_ok.mp h
    cases h
    exact ⟨canonical_ite rfl (canonical_ite rfl (canonical_ite rfl rfl)), rfl⟩
  refine ⟨parts.1, fun m hm => ?_⟩
  obtain ⟨found, hfound, rfl⟩ := List.mem_filterMap.mp (parts.2 ▸ hm)
  obtain ⟨s, -, made⟩ := exists_of_mem_mapM read hfound
  exact canonical_methodOf made

mutual

theorem canonical_declarationsOf {nameSpace : String} (s : Statement)
    {declarations : List TypeDeclaration} (h : declarationsOf nameSpace s = .ok declarations) :
    ∀ d ∈ declarations, d.Canonical := by
  unfold declarationsOf at h
  split at h
  · obtain ⟨first, made, h⟩ := bind_eq_ok.mp h
    obtain ⟨inner, found, h⟩ := bind_eq_ok.mp h
    cases h
    intro d hd
    rcases List.mem_cons.mp hd with rfl | hd
    · exact canonical_classDeclaration made
    · exact canonical_declarationsIn _ found d hd
  · cases h
    simp

theorem canonical_declarationsIn {nameSpace : String} (body : List Statement)
    {declarations : List TypeDeclaration} (h : declarationsIn nameSpace body = .ok declarations) :
    ∀ d ∈ declarations, d.Canonical := by
  unfold declarationsIn at h
  split at h
  · cases h
    simp
  · obtain ⟨first, here, h⟩ := bind_eq_ok.mp h
    obtain ⟨later, behind, h⟩ := bind_eq_ok.mp h
    cases h
    intro d hd
    rcases List.mem_append.mp hd with hd | hd
    · exact canonical_declarationsOf _ here d hd
    · exact canonical_declarationsIn _ behind d hd

end

theorem canonical_moduleExtraction (path source : String) :
    (moduleExtraction path source).Canonical := by
  intro declarations h d hd
  unfold moduleExtraction moduleDeclarations at h
  split at h
  · rename_i found
    cases h
    split at found
    · cases found
    · split at found
      · cases found
      · split at found
        · cases found
        · rename_i listed
          cases found
          exact canonical_declarationsIn _ listed d hd
  · cases h

end Source

theorem Project.canonical_discover {m : IgnoreMatcher} {t : FileTree} {root : Path}
    {units : List SourceUnit} (h : discover m t root = .ok units) :
    ∀ u ∈ units, u.extraction.Canonical := by
  have listed : ∃ names : List (List String), units = names.map (unitOf t root) := by
    simp only [discover, pure_bind] at h
    repeat' split at h
    all_goals first
      | exact ⟨_, (Except.ok.inj h).symm⟩
      | cases h
  obtain ⟨names, rfl⟩ := listed
  intro u hu
  obtain ⟨name, -, rfl⟩ := List.mem_map.mp hu
  rw [unitOf, extraction]
  split
  · exact Source.canonical_moduleExtraction _ _
  · rintro declarations ⟨⟩

/-! ## Registries -/

namespace RuleRegistry

def Known (registry : RuleRegistry) : Prop := ∀ r ∈ registry.rules, r.role.isKnown = true

theorem known_ofCandidates {candidates : List RuleCandidate} {version : Json}
    {registry : RuleRegistry} (h : ofCandidates candidates version = .ok registry) :
    registry.Known :=
  fun r hr => (wellFormed_ofCandidates h r hr).role

end RuleRegistry

end TacticalDesign
