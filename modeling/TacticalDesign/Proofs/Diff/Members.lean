import Mathlib.Data.List.Pairwise
import Mathlib.Data.List.Perm.Basic
import TacticalDesign.Proofs.Order
import TacticalDesign.StructuralDiff
/-!
# What the lists of a structural difference say

A name is listed as added, removed or changed exactly when it is. Fields are told apart by their
names and overloads by their signatures, so where these are distinct no name is listed exactly when
both symbols have the same fields and the same methods.
-/

namespace TacticalDesign

/-- A symbol whose members can be told apart: no two fields share a name and no two methods share
both name and signature. -/
structure Symbol.Unambiguous (s : Symbol) : Prop where
  fields : (s.fields.map (·.name)).Nodup
  overloads : s.methods.Pairwise fun a b => a.name = b.name → a.signature ≠ b.signature

theorem Symbol.Unambiguous.eq_of_signature {s : Symbol} (h : s.Unambiguous)
    {m m' : MethodDeclaration} (hm : m ∈ s.methods) (hm' : m' ∈ s.methods)
    (name : m.name = m'.name) (signature : m.signature = m'.signature) : m = m' := by
  by_contra hne
  have symm : Std.Symm fun a b : MethodDeclaration => a.name = b.name → a.signature ≠ b.signature :=
    ⟨fun a b hab e => (hab e.symm).symm⟩
  exact h.overloads.forall hm hm' hne name signature

namespace StructuralDiff

/-! ## Name lists -/

section Names

variable {old new : List String} {name : String}

theorem mem_without : name ∈ without old new ↔ name ∈ old ∧ name ∉ new := by
  simp [without, mem_textSet]

theorem mem_changedNames {same : String → Bool} :
    name ∈ changedNames old new same ↔ name ∈ old ∧ name ∈ new ∧ same name = false := by
  simp [changedNames, mem_textSet]

theorem without_eq_nil_iff : without old new = [] ↔ ∀ name ∈ old, name ∈ new := by
  simp [List.eq_nil_iff_forall_not_mem, mem_without]

theorem changedNames_eq_nil_iff {same : String → Bool} :
    changedNames old new same = [] ↔ ∀ name ∈ old, name ∈ new → same name = true := by
  simp [List.eq_nil_iff_forall_not_mem, mem_changedNames]

/-- The names of the one list lead to those of the other: the names that are gone are taken out and
the new ones put in. -/
theorem mem_iff_of_without :
    name ∈ new ↔ name ∈ old ∧ name ∉ without old new ∨ name ∈ without new old := by
  rw [mem_without, mem_without]
  tauto

/-- Nothing is listed about two families of values exactly when the families are one. A name is in
the list of a family when its value is not the blank one. -/
theorem lists_eq_nil_iff {α : Type} [BEq α] [LawfulBEq α] {a b : String → α} (blank : α)
    (hold : ∀ name, name ∈ old ↔ a name ≠ blank) (hnew : ∀ name, name ∈ new ↔ b name ≠ blank) :
    (without new old = [] ∧ without old new = [] ∧
      changedNames old new (fun name => a name == b name) = []) ↔ ∀ name, a name = b name := by
  rw [without_eq_nil_iff, without_eq_nil_iff, changedNames_eq_nil_iff]
  constructor
  · rintro ⟨no_new, no_old, same⟩ name
    by_cases h : name ∈ old
    · simpa using same name h (no_old name h)
    · have ha : a name = blank := by simpa [hold] using h
      have hb : b name = blank := by simpa [hnew] using fun h' => h (no_new name h')
      rw [ha, hb]
  · intro same
    have names : ∀ name, name ∈ old ↔ name ∈ new := fun name => by rw [hold, hnew, same]
    exact ⟨fun name h => (names name).mpr h, fun name h => (names name).mp h,
      fun name _ _ => by simpa using same name⟩

end Names

/-! ## Fields and methods -/

section Members

variable {s t : Symbol} {name : String}

theorem mem_fieldNames_iff : name ∈ fieldNames s ↔ field? s name ≠ none := by
  simp [fieldNames, field?]

theorem field?_eq_some_iff (h : s.Unambiguous) {f : FieldDeclaration} :
    field? s name = some f ↔ f ∈ s.fields ∧ f.name = name := by
  have distinct : (s.fields.reverse.map (·.name)).Nodup := by
    rw [List.map_reverse]
    exact List.nodup_reverse.mpr h.fields
  rw [field?, find?_key_iff FieldDeclaration.name distinct, List.mem_reverse]

theorem field?_eq_iff (hs : s.Unambiguous) (ht : t.Unambiguous) :
    field? s name = field? t name ↔ ∀ f, f.name = name → (f ∈ s.fields ↔ f ∈ t.fields) := by
  constructor
  · intro same f hf
    have hfs : field? s name = some f ↔ f ∈ s.fields ∧ f.name = name := field?_eq_some_iff hs
    have hft : field? t name = some f ↔ f ∈ t.fields ∧ f.name = name := field?_eq_some_iff ht
    rw [same] at hfs
    simpa [hf] using hfs.symm.trans hft
  · intro same
    refine Option.ext fun f => ?_
    rw [field?_eq_some_iff hs, field?_eq_some_iff ht]
    exact and_congr_left (same f)

theorem mem_methodNames_iff : name ∈ methodNames s ↔ overloads s name ≠ [] := by
  have empty : overloads s name = [] ↔ s.methods.filter (·.name == name) = [] := by
    rw [← List.length_eq_zero_iff, overloads, List.length_mergeSort, List.length_eq_zero_iff]
  simp [methodNames, empty]

theorem overloads_eq_iff (hs : s.Unambiguous) :
    overloads s name = overloads t name ↔
      (s.methods.filter (·.name == name)).Perm (t.methods.filter (·.name == name)) := by
  unfold overloads
  constructor
  · intro same
    have left := List.mergeSort_perm (s.methods.filter (·.name == name))
      fun a b => textLe a.signature b.signature
    rw [same] at left
    exact left.symm.trans (List.mergeSort_perm _ _)
  · intro perm
    have sorted := sorted_mergeSort_key MethodDeclaration.signature
    refine List.Perm.eq_of_pairwise ?_ (sorted _) (sorted _)
      ((List.mergeSort_perm _ _).trans (perm.trans (List.mergeSort_perm _ _).symm))
    intro m m' hm hm' le ge
    rw [List.mem_mergeSort] at hm hm'
    rw [← perm.mem_iff] at hm'
    obtain ⟨hm, hname⟩ := List.mem_filter.mp hm
    obtain ⟨hm', hname'⟩ := List.mem_filter.mp hm'
    refine hs.eq_of_signature hm hm' ?_ (String.le_antisymm (textLe_iff.mp le) (textLe_iff.mp ge))
    rw [eq_of_beq hname, eq_of_beq hname']

theorem perm_iff_filter_name {a b : List MethodDeclaration} :
    (∀ name : String, (a.filter (·.name == name)).Perm (b.filter (·.name == name))) ↔ a.Perm b := by
  constructor
  · intro h
    refine List.perm_iff_count.mpr fun m => ?_
    have same := List.perm_iff_count.mp (h m.name) m
    rwa [List.count_filter (by simp), List.count_filter (by simp)] at same
  · exact fun h name => h.filter _

theorem fields_unlisted_iff (hs : s.Unambiguous) (ht : t.Unambiguous) :
    (without (fieldNames t) (fieldNames s) = [] ∧ without (fieldNames s) (fieldNames t) = [] ∧
      changedNames (fieldNames s) (fieldNames t)
        (fun name => field? s name == field? t name) = []) ↔
      ∀ f, f ∈ s.fields ↔ f ∈ t.fields := by
  refine (lists_eq_nil_iff none (fun _ => mem_fieldNames_iff) fun _ => mem_fieldNames_iff).trans ?_
  simp only [field?_eq_iff hs ht]
  exact ⟨fun h f => h f.name f rfl, fun h _ f _ => h f⟩

theorem methods_unlisted_iff (hs : s.Unambiguous) :
    (without (methodNames t) (methodNames s) = [] ∧ without (methodNames s) (methodNames t) = [] ∧
      changedNames (methodNames s) (methodNames t)
        (fun name => overloads s name == overloads t name) = []) ↔ s.methods.Perm t.methods := by
  refine (lists_eq_nil_iff [] (fun _ => mem_methodNames_iff) fun _ => mem_methodNames_iff).trans ?_
  simp only [overloads_eq_iff hs]
  exact perm_iff_filter_name

theorem shapeChanges_eq_nil_iff :
    shapeChanges s t = [] ↔ s.kind = t.kind ∧ s.bases = t.bases ∧
      s.valueEquality = t.valueEquality ∧ s.isAbstract = t.isAbstract := by
  simp [shapeChanges]

end Members

end StructuralDiff

end TacticalDesign
