import TacticalDesign.DeclarationReader
import TacticalDesign.Proofs.Except
/-!
# What the declarations of a document are read as

A relation tells which entries stand for a declaration and what is made of them; the reader finds
what the relation allows and nothing else. Whatever else stands in a unit is a failure that makes
the unit unparseable.
-/

namespace TacticalDesign

structure TypeDeclaration.Known (d : TypeDeclaration) : Prop where
  kind : d.kind.isKnown = true
  visibilities : ∀ m ∈ d.methods, m.visibility.isKnown = true

namespace DeclarationReader

/-! ## Entries -/

/-- What stands where a list is wanted, read item by item. A text stands for the list of its
characters and an object for the list of its keys. -/
inductive ReadsList {α : Type} (Reads : Json → α → Prop) : Json → List α → Prop where
  | array {items rs} (each : List.Forall₂ Reads items rs) : ReadsList Reads (.array items) rs
  | text {s rs}
      (each : List.Forall₂ Reads (s.toList.map fun c => .string (String.singleton c)) rs) :
      ReadsList Reads (.string s) rs
  | keys {ms : List (String × Json)} {rs}
      (each : List.Forall₂ Reads (ms.map fun m => .string m.1) rs) :
      ReadsList Reads (.object ms) rs

def ReadsText (v : Json) (s : String) : Prop := v.asText = s

inductive ReadsField : Json → FieldDeclaration → Prop where
  | object {ms name} (named : Json.lookup "name" ms = some name) :
      ReadsField (.object ms) {
        name := name.asText
        declaredType := optionalText "declared_type" ms
        isMutable := flag "mutable" true ms }

inductive ReadsMethod : Json → MethodDeclaration → Prop where
  | object {ms name word parameterTypes}
      (visible : (Json.lookup "visibility" ms).getD (.string "public") = .string word)
      (known : (Visibility.ofWord word).isKnown = true)
      (named : Json.lookup "name" ms = some name)
      (parameters : ReadsList ReadsText
        ((Json.lookup "parameter_types" ms).getD (.array [])) parameterTypes) :
      ReadsMethod (.object ms) {
        name := name.asText
        signature := text "signature" ms
        visibility := Visibility.ofWord word
        isStatic := flag "is_static" false ms
        isAccessor := flag "is_accessor" false ms
        isAbstract := flag "is_abstract" false ms
        parameterTypes
        returnType := optionalText "return_type" ms }

inductive ReadsDeclaration : Json → TypeDeclaration → Prop where
  | object {ms name word fields methods bases}
      (kind : (Json.lookup "kind" ms).getD (.string "class") = .string word)
      (known : (DeclarationKind.ofWord word).isKnown = true)
      (named : Json.lookup "name" ms = some name)
      (holds : ReadsList ReadsField ((Json.lookup "fields" ms).getD (.array [])) fields)
      (does : ReadsList ReadsMethod ((Json.lookup "methods" ms).getD (.array [])) methods)
      (below : ReadsList ReadsText ((Json.lookup "bases" ms).getD (.array [])) bases) :
      ReadsDeclaration (.object ms) {
        name := name.asText
        kind := DeclarationKind.ofWord word
        nameSpace := text "namespace" ms
        fields
        methods
        bases
        valueEquality := flag "value_equality" false ms
        isAbstract := flag "is_abstract" false ms }

inductive ReadsUnit (item : List (String × Json)) : List TypeDeclaration → Prop where
  | bare (silent : Json.lookup "error" item = none)
      (absent : Json.lookup "declarations" item = none) : ReadsUnit item []
  | listed {entries ds} (silent : Json.lookup "error" item = none)
      (listed : Json.lookup "declarations" item = some (.array entries))
      (each : List.Forall₂ ReadsDeclaration entries ds) : ReadsUnit item ds

/-! ## The reader -/

section Lists

variable {α : Type} {read : Json → Read α} {Reads : Json → α → Prop} {v : Json} {rs : List α}

theorem readsList_iff (read_iff : ∀ {v r}, read v = .ok r ↔ Reads v r) :
    (items v >>= fun vs => vs.mapM read) = .ok rs ↔ ReadsList Reads v rs := by
  have each {vs : List Json} : vs.mapM read = .ok rs ↔ List.Forall₂ Reads vs rs := by
    simp only [mapM_eq_ok_iff, read_iff]
  cases v with
  | array vs =>
      rw [show items (.array vs) = .ok vs from rfl]
      exact each.trans ⟨.array, fun | .array h => h⟩
  | string s =>
      rw [show items (.string s) =
        .ok (s.toList.map fun c => .string (String.singleton c)) from rfl]
      exact each.trans ⟨.text, fun | .text h => h⟩
  | object ms =>
      rw [show items (.object ms) = .ok (ms.map fun m => .string m.1) from rfl]
      exact each.trans ⟨.keys, fun | .keys h => h⟩
  | null => exact ⟨nofun, nofun⟩
  | bool b => exact ⟨nofun, nofun⟩
  | number n => exact ⟨nofun, nofun⟩

theorem exists_of_readsList {r : α} (h : ReadsList Reads v rs) (hr : r ∈ rs) : ∃ v, Reads v r := by
  have each {vs : List Json} (each : List.Forall₂ Reads vs rs) : ∃ v, Reads v r := by
    obtain ⟨i, hi, rfl⟩ := List.mem_iff_getElem.mp hr
    exact ⟨_, each.get (each.length_eq ▸ hi) hi⟩
  rcases h with h | h | h <;> exact each h

end Lists

variable {v : Json} {ms : List (String × Json)}

theorem texts_eq_ok {key : String} {ts : List String} :
    texts key ms = .ok ts ↔
      ReadsList ReadsText ((Json.lookup key ms).getD (.array [])) ts := by
  let read (v : Json) : Read String := pure v.asText
  have read_iff {v : Json} {s : String} : read v = .ok s ↔ ReadsText v s := by
    simp [read, ReadsText, pure, Except.pure]
  rw [← readsList_iff read_iff]
  simp only [read, List.mapM_pure]
  rfl

theorem members_eq_ok : members v = .ok ms ↔ v = .object ms := by
  cases v <;> simp [members]

theorem required_eq_ok {key : String} :
    required key ms = .ok v ↔ Json.lookup key ms = some v := by
  unfold required
  cases Json.lookup key ms <;> simp

theorem word_eq_ok {known : String → Bool} {unknown : Json → DeclarationProblem} {w : String} :
    word known unknown v = .ok w ↔ v = .string w ∧ known w = true := by
  cases v with
  | string s =>
      by_cases hs : known s = true
      · simp only [word, if_pos hs]
        constructor
        · rintro ⟨⟩
          exact ⟨rfl, hs⟩
        · rintro ⟨⟨⟩, -⟩
          rfl
      · simp only [word, if_neg hs]
        constructor
        · rintro ⟨⟩
        · rintro ⟨⟨⟩, h⟩
          exact absurd h hs
  | _ => simp [word]

theorem field_eq_ok {d : FieldDeclaration} : field v = .ok d ↔ ReadsField v d := by
  constructor
  · intro read
    obtain ⟨ms, hms, h⟩ := bind_eq_ok.mp read
    obtain rfl := members_eq_ok.mp hms
    obtain ⟨name, named, h⟩ := bind_eq_ok.mp h
    cases h
    exact .object (required_eq_ok.mp named)
  · rintro ⟨named⟩
    exact bind_eq_ok.mpr ⟨_, rfl, bind_eq_ok.mpr ⟨_, required_eq_ok.mpr named, rfl⟩⟩

theorem method_eq_ok {d : MethodDeclaration} : method v = .ok d ↔ ReadsMethod v d := by
  constructor
  · intro read
    obtain ⟨ms, hms, h⟩ := bind_eq_ok.mp read
    obtain rfl := members_eq_ok.mp hms
    obtain ⟨w, hw, h⟩ := bind_eq_ok.mp h
    obtain ⟨visible, known⟩ := word_eq_ok.mp hw
    obtain ⟨name, named, h⟩ := bind_eq_ok.mp h
    obtain ⟨parameterTypes, parameters, h⟩ := bind_eq_ok.mp h
    cases h
    exact .object visible known (required_eq_ok.mp named) (texts_eq_ok.mp parameters)
  · rintro ⟨visible, known, named, parameters⟩
    exact bind_eq_ok.mpr ⟨_, rfl, bind_eq_ok.mpr ⟨_, word_eq_ok.mpr ⟨visible, known⟩,
      bind_eq_ok.mpr ⟨_, required_eq_ok.mpr named,
        bind_eq_ok.mpr ⟨_, texts_eq_ok.mpr parameters, rfl⟩⟩⟩⟩

theorem declaration_eq_ok {d : TypeDeclaration} :
    declaration v = .ok d ↔ ReadsDeclaration v d := by
  constructor
  · intro read
    obtain ⟨ms, hms, h⟩ := bind_eq_ok.mp read
    obtain rfl := members_eq_ok.mp hms
    obtain ⟨w, hw, h⟩ := bind_eq_ok.mp h
    obtain ⟨kind, known⟩ := word_eq_ok.mp hw
    obtain ⟨name, named, h⟩ := bind_eq_ok.mp h
    obtain ⟨fieldItems, hfieldItems, h⟩ := bind_eq_ok.mp h
    obtain ⟨fields, hfields, h⟩ := bind_eq_ok.mp h
    have fieldsRead := (readsList_iff field_eq_ok).mp (bind_eq_ok.mpr ⟨_, hfieldItems, hfields⟩)
    obtain ⟨methodItems, hmethodItems, h⟩ := bind_eq_ok.mp h
    obtain ⟨methods, hmethods, h⟩ := bind_eq_ok.mp h
    have methodsRead := (readsList_iff method_eq_ok).mp (bind_eq_ok.mpr ⟨_, hmethodItems, hmethods⟩)
    obtain ⟨bases, basesRead, h⟩ := bind_eq_ok.mp h
    cases h
    exact .object kind known (required_eq_ok.mp named) fieldsRead methodsRead
      (texts_eq_ok.mp basesRead)
  · rintro ⟨kind, known, named, fields, methods, bases⟩
    obtain ⟨fieldItems, hfieldItems, hfields⟩ :=
      bind_eq_ok.mp ((readsList_iff field_eq_ok).mpr fields)
    obtain ⟨methodItems, hmethodItems, hmethods⟩ :=
      bind_eq_ok.mp ((readsList_iff method_eq_ok).mpr methods)
    exact bind_eq_ok.mpr ⟨_, rfl, bind_eq_ok.mpr ⟨_, word_eq_ok.mpr ⟨kind, known⟩,
      bind_eq_ok.mpr ⟨_, required_eq_ok.mpr named,
        bind_eq_ok.mpr ⟨_, hfieldItems, bind_eq_ok.mpr ⟨_, hfields,
          bind_eq_ok.mpr ⟨_, hmethodItems, bind_eq_ok.mpr ⟨_, hmethods,
            bind_eq_ok.mpr ⟨_, texts_eq_ok.mpr bases, rfl⟩⟩⟩⟩⟩⟩⟩⟩

variable {item : List (String × Json)} {ds : List TypeDeclaration}

theorem unit_eq_ok : unit item = .ok ds ↔ ReadsUnit item ds := by
  have each {entries : List Json} : entries.mapM declaration = .ok ds ↔
      List.Forall₂ ReadsDeclaration entries ds := by
    simp only [mapM_eq_ok_iff, declaration_eq_ok]
  constructor
  · intro h
    unfold unit at h
    split at h
    · cases h
    · rename_i silent
      split at h
      · rename_i absent
        cases h
        exact .bare silent absent
      · rename_i entries listed
        split at h
        · rename_i read
          cases h
          exact .listed silent listed (each.mp read)
        · cases h
      · cases h
  · rintro (⟨silent, absent⟩ | ⟨silent, listed, read⟩)
    · simp only [unit, silent, absent]
    · simp only [unit, silent, listed, each.mpr read]

/-! ## Problems -/

/-- No problem with a declaration is of a kind that a unit is not prepared for. -/
theorem kind_foreseen (p : DeclarationProblem) :
    p.failure.kind ∈ DeclarationProblem.foreseenKinds := by
  cases p <;>
    simp [DeclarationProblem.failure, DeclarationProblem.foreseenKinds, Failure.missingKey,
      Failure.other, Failure.value]

theorem toFailure_of_unit_error {p : UnitProblem} (h : unit item = .error p) :
    ∃ text, p.toFailure = .unparseable text := by
  unfold unit at h
  split at h
  · cases h
    exact ⟨_, rfl⟩
  · split at h
    · cases h
    · split at h
      · cases h
      · rename_i problem _
        cases h
        rw [UnitProblem.ofDeclaration, if_pos (kind_foreseen problem)]
        exact ⟨_, rfl⟩
    · cases h
      exact ⟨_, rfl⟩

theorem known_of_readsDeclaration {d : TypeDeclaration} (h : ReadsDeclaration v d) : d.Known := by
  obtain ⟨-, known, -, -, methods, -⟩ := h
  refine ⟨known, fun m hm => ?_⟩
  obtain ⟨_, -, known, -, -⟩ := exists_of_readsList methods hm
  exact known

theorem known_of_readsUnit (h : ReadsUnit item ds) {d : TypeDeclaration} (hd : d ∈ ds) :
    d.Known := by
  rcases h with - | ⟨-, -, each⟩
  · cases hd
  · obtain ⟨_, reads⟩ := exists_of_readsList (.array each) hd
    exact known_of_readsDeclaration reads

end DeclarationReader

end TacticalDesign
