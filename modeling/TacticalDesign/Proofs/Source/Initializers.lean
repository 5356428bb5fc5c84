import Mathlib
import TacticalDesign.Proofs.Source.Fields
import TacticalDesign.Proofs.Source.Levels
/-!
# The fields of an initializer

Behind the fields of the class body come the names that initializers assign to `self`. They are
found level by level: a name that is assigned at a lower depth comes first, and the type is taken
from its assignment of least depth. Where no assignment stands deeper than a later one, this is the
order of the source.
-/

namespace TacticalDesign.Source

/-! ## Assignments to `self` -/

/-- An assignment to a name of `self`, with the annotation that tells its type, if one does. -/
structure SelfAssignment where
  name : String
  typeExpr : Option Expr

def SelfAssignment.Declares (isFrozen : Bool) (a : SelfAssignment) (f : FieldDeclaration) : Prop :=
  ∃ typeText, a.typeExpr.mapM (·.text) = .ok typeText ∧ f = fieldOf isFrozen a.name typeText

def parameterType? (name : String) : List Parameter → Option Expr
  | [] => none
  | p :: rest => (parameterType? name rest).or (if p.name = name then p.typeExpr else none)

def valueType? (parameters : List Parameter) : Expr → Option Expr
  | .name id => parameterType? id (parameters.filter isNamedParameter)
  | _ => none

def assignmentsOf (parameters : List Parameter) : Statement → List SelfAssignment
  | .annotated target typeExpr _ => (selfTarget? target).toList.map (⟨·, some typeExpr⟩)
  | .assign targets value =>
    (targets.filterMap selfTarget?).map (⟨·, valueType? parameters value⟩)
  | _ => []

def initializerAssignments : Statement → List (Nat × SelfAssignment)
  | .functionDef false "__init__" _ parameters _ body =>
    (Statement.inOrder 0 body).flatMap fun p => (assignmentsOf parameters p.2).map (p.1, ·)
  | _ => []

/-- Assignments sorted by depth; at one depth they stay in their order. -/
def byLevel (assignments : List (Nat × SelfAssignment)) : List (Nat × SelfAssignment) :=
  assignments.mergeSort fun p q => decide (p.1 ≤ q.1)

def sourceAssignments (body : List Statement) : List SelfAssignment :=
  body.flatMap fun s => (initializerAssignments s).map Prod.snd

/-- The assignments in the initializers of a class body, in each of them level by level. -/
def levelAssignments (body : List Statement) : List SelfAssignment :=
  body.flatMap fun s => (byLevel (initializerAssignments s)).map Prod.snd

def classLevelName? : Statement → Option String
  | .annotated (.name id) typeExpr _ => if typeExpr.leads "ClassVar" then none else some id
  | _ => none

def classLevelNames (body : List Statement) : List String := body.filterMap classLevelName?

/-- Fields are the names of a class body, then those assigned to `self`, each once and in the order
of its first place; a field that only assignments declare is that of the first one. -/
structure FieldsInOrder (isFrozen : Bool) (classLevel : List String)
    (assigned : List SelfAssignment) (fields : List FieldDeclaration) : Prop where
  names : fields.map (·.name) = (classLevel ++ assigned.map (·.name)).eraseDups
  declared : ∀ f ∈ fields, f.name ∉ classLevel →
    ∃ a, assigned.find? (·.name == f.name) = some a ∧ a.Declares isFrozen f

/-! ## What an initializer assigns -/

theorem mapM_some_of_ok {α β ε : Type} {f : α → Except ε β} {a : α} {b : β} (h : f a = .ok b) :
    (some a).mapM f = .ok (some b) := by
  rw [Option.mapM_some, h]
  rfl

theorem lookup_annotationTexts {parameters : List Parameter} {types : List (String × String)}
    (h : annotationTexts parameters = .ok types) (name : String) :
    (parameterType? name parameters).mapM (·.text) = .ok (types.lookup name) := by
  induction parameters generalizing types with
  | nil =>
      cases h
      rfl
  | cons p rest ih =>
      rw [annotationTexts] at h
      rw [parameterType?]
      split at h
      · rename_i bare
        rw [bare, ite_self, Option.or_none]
        exact ih h
      · rename_i e annotated
        obtain ⟨text, written, h⟩ := bind_eq_ok.mp h
        obtain ⟨later, behind, h⟩ := bind_eq_ok.mp h
        cases h
        have found := ih behind
        rw [List.lookup_append, annotated]
        cases last : parameterType? name rest with
        | none =>
            rw [last] at found
            have missing : later.lookup name = none := (Except.ok.inj found).symm
            rw [missing, Option.none_or, Option.none_or]
            by_cases same : p.name = name
            · rw [if_pos same, same, List.lookup_cons_self]
              exact mapM_some_of_ok written
            · have other : (name == p.name) = false := by simpa using Ne.symm same
              rw [if_neg same, List.lookup_cons, other]
              rfl
        | some e' =>
            -- an annotation behind this one outweighs it
            rw [last] at found
            obtain ⟨text', written', found⟩ := bind_eq_ok.mp found
            have there : later.lookup name = some text' := (Except.ok.inj found).symm
            rw [there, Option.some_or, Option.some_or]
            exact mapM_some_of_ok written'

theorem declares_assignedFields {isFrozen : Bool} {parameters : List Parameter}
    {types : List (String × String)}
    (htypes : annotationTexts (parameters.filter isNamedParameter) = .ok types)
    {s : Statement} {fs : List FieldDeclaration} (h : assignedFields isFrozen types s = .ok fs) :
    List.Forall₂ (SelfAssignment.Declares isFrozen) (assignmentsOf parameters s) fs := by
  unfold assignedFields at h
  split at h
  · rename_i target typeExpr value
    obtain ⟨text, written, h⟩ := bind_eq_ok.mp h
    cases h
    rw [assignmentsOf, List.forall₂_map_left_iff, List.forall₂_map_right_iff, List.forall₂_same]
    intro name _
    exact ⟨some text, mapM_some_of_ok written, rfl⟩
  · rename_i targets value
    cases h
    rw [assignmentsOf, List.forall₂_map_left_iff, List.forall₂_map_right_iff, List.forall₂_same]
    intro name _
    refine ⟨_, ?_, rfl⟩
    cases value with
    | name id => exact lookup_annotationTexts htypes id
    | _ => rfl
  · rename_i unannotated unassigned
    cases h
    unfold assignmentsOf
    split
    · exact absurd rfl (unannotated _ _ _)
    · exact absurd rfl (unassigned _ _)
    · exact .nil

theorem forall₂_flatten {α β : Type} {R : α → β → Prop} {ls : List (List α)}
    {rs : List (List β)} (h : List.Forall₂ (List.Forall₂ R) ls rs) :
    List.Forall₂ R ls.flatten rs.flatten := by
  induction h with
  | nil => exact .nil
  | cons first _ ih => exact List.rel_append first ih

/-- What is assigned at a walk is what is assigned in the source, level by level. -/
theorem assignments_walk (parameters : List Parameter) (body : List Statement) :
    (Statement.walk body).flatMap (assignmentsOf parameters) =
      (byLevel ((Statement.inOrder 0 body).flatMap fun p =>
        (assignmentsOf parameters p.2).map (p.1, ·))).map Prod.snd := by
  have keeps : ∀ p : Nat × Statement,
      ∀ q ∈ (assignmentsOf parameters p.2).map (p.1, ·), q.1 = p.1 := by
    intro p q hq
    obtain ⟨a, -, rfl⟩ := List.mem_map.mp hq
    rfl
  rw [byLevel, mergeSort_flatMap Prod.fst keeps, Statement.walk_eq, Statement.walkPlaces,
    List.map_flatMap, List.flatMap_map]
  simp [Function.comp_def]

theorem declares_initializerFields {isFrozen : Bool} {s : Statement} {fs : List FieldDeclaration}
    (h : initializerFields isFrozen s = .ok fs) :
    List.Forall₂ (SelfAssignment.Declares isFrozen)
      ((byLevel (initializerAssignments s)).map Prod.snd) fs := by
  unfold initializerFields at h
  split at h
  · rename_i decorators parameters returns body
    obtain ⟨types, htypes, h⟩ := bind_eq_ok.mp h
    obtain ⟨found, each, h⟩ := bind_eq_ok.mp h
    cases h
    rw [initializerAssignments, ← assignments_walk, List.flatMap_def]
    apply forall₂_flatten
    rw [List.forall₂_map_left_iff]
    exact (forall₂_of_mapM each).imp fun s fs hs => declares_assignedFields htypes hs
  · rename_i other
    cases h
    unfold initializerAssignments
    split
    · exact absurd rfl (other _ _ _ _)
    · rw [byLevel, List.mergeSort_nil]
      exact .nil

theorem declares_assigned {isFrozen : Bool} {body : List Statement}
    {found : List (List FieldDeclaration)}
    (h : body.mapM (initializerFields isFrozen) = .ok found) :
    List.Forall₂ (SelfAssignment.Declares isFrozen) (levelAssignments body) found.flatten := by
  rw [levelAssignments, List.flatMap_def]
  apply forall₂_flatten
  rw [List.forall₂_map_left_iff]
  exact (forall₂_of_mapM h).imp fun s fs hs => declares_initializerFields hs

theorem name_of_declares {isFrozen : Bool} {a : SelfAssignment} {f : FieldDeclaration}
    (h : a.Declares isFrozen f) : f.name = a.name := by
  obtain ⟨t, -, rfl⟩ := h
  rfl

/-! ## The names of a class body -/

theorem name_of_annotatedField {isFrozen : Bool} {s : Statement}
    {found : Option FieldDeclaration} (h : annotatedField isFrozen s = .ok found) :
    found.map (·.name) = classLevelName? s := by
  unfold annotatedField at h
  split at h
  · rename_i id typeExpr value
    obtain ⟨text, written, h⟩ := bind_eq_ok.mp h
    cases h
    have marked : isClassVariable text = typeExpr.leads "ClassVar" :=
      Expr.startsWithMark_text (by decide) written
    rw [marked, classLevelName?]
    cases typeExpr.leads "ClassVar" <;> rfl
  · rename_i other
    cases h
    unfold classLevelName?
    split
    · exact absurd rfl (other _ _ _)
    · rfl

theorem names_annotated {isFrozen : Bool} {body : List Statement}
    {found : List (Option FieldDeclaration)}
    (h : body.mapM (annotatedField isFrozen) = .ok found) :
    (found.filterMap id).map (·.name) = classLevelNames body := by
  have each : found.map (Option.map (·.name)) = body.map classLevelName? :=
    map_of_mapM name_of_annotatedField h
  rw [classLevelNames, ← Function.id_comp classLevelName?, ← List.filterMap_map, ← each,
    List.filterMap_map, List.map_filterMap]
  rfl

/-! ## Fields in order -/

theorem names_foldl_addField (fields acc : List FieldDeclaration) :
    (fields.foldl addField acc).map (·.name) =
      (fields.map (·.name)).foldl (fun seen a => if a ∈ seen then seen else seen ++ [a])
        (acc.map (·.name)) := by
  induction fields generalizing acc with
  | nil => rfl
  | cons f fields ih =>
      have known : acc.any (·.name = f.name) = true ↔ f.name ∈ acc.map (·.name) := by
        simp [List.mem_map]
      rw [List.foldl_cons, ih, List.map_cons, List.foldl_cons, addField]
      congr 1
      by_cases there : f.name ∈ acc.map (·.name)
      · rw [if_pos there, if_pos (known.mpr there)]
      · rw [if_neg there, if_neg (mt known.mp there), List.map_append]
        rfl

theorem names_foldl (fields : List FieldDeclaration) :
    (fields.foldl addField []).map (·.name) = (fields.map (·.name)).eraseDups := by
  rw [names_foldl_addField, ← firstOccurrences_eq_eraseDups]
  rfl

theorem find?_forall₂ {α β : Type} {R : α → β → Prop} {p : α → Bool} {q : β → Bool}
    (same : ∀ {a b}, R a b → q b = p a) {l : List α} {r : List β} (h : List.Forall₂ R l r) {b : β}
    (found : r.find? q = some b) : ∃ a, l.find? p = some a ∧ R a b := by
  induction h with
  | nil => cases found
  | @cons a b' l r first _ ih =>
      rw [List.find?_cons] at found ⊢
      rw [same first] at found
      cases passes : p a with
      | true =>
          rw [passes] at found
          cases found
          exact ⟨a, rfl, first⟩
      | false =>
          rw [passes] at found
          exact ih found

theorem fieldsInOrder {isFrozen : Bool} {body : List Statement} {fields : List FieldDeclaration}
    (h : fieldsOf isFrozen body = .ok fields) :
    FieldsInOrder isFrozen (classLevelNames body) (levelAssignments body) fields := by
  obtain ⟨annotated, assigned, hannotated, hassigned, rfl⟩ := fieldsOf_eq_ok h
  have names := names_annotated hannotated
  have each := declares_assigned hassigned
  constructor
  · have assignedNames : assigned.flatten.map (·.name) = (levelAssignments body).map (·.name) := by
      rw [← List.forall₂_eq_eq_eq, List.forall₂_map_left_iff, List.forall₂_map_right_iff]
      exact each.flip.imp fun _ _ declares => name_of_declares declares
    rw [names_foldl, List.map_append, names, assignedNames]
  · intro f hf fresh
    have found := mem_foldl_addField.mp ⟨hf, rfl⟩
    have unannotated : (annotated.filterMap id).find? (·.name == f.name) = none := by
      refine List.find?_eq_none.mpr fun g hg same => fresh ?_
      rw [← names, ← eq_of_beq same]
      exact List.mem_map_of_mem hg
    rw [List.find?_append, unannotated, Option.none_or] at found
    exact find?_forall₂ (fun declares => by rw [name_of_declares declares]) each found

/-- Where no assignment stands deeper than a later one, levels are in the order of the source. -/
theorem levelAssignments_of_ascending {body : List Statement}
    (ascending : ∀ s ∈ body, (initializerAssignments s).Pairwise fun p q => p.1 ≤ q.1) :
    levelAssignments body = sourceAssignments body := by
  refine List.flatMap_congr fun s hs => ?_
  rw [byLevel, List.mergeSort_of_pairwise ((ascending s hs).imp fun le => decide_eq_true le)]

theorem levelAssignments_perm (body : List Statement) :
    (levelAssignments body).Perm (sourceAssignments body) :=
  List.Perm.flatMap_left body fun _ _ => (List.mergeSort_perm _ _).map Prod.snd

/-- In the declaration of a class that is no enum, the fields are the names that annotations in the
class body declare, then those that initializers assign to `self`, in each of them level by level:
each name once, and with the type and the mutability of its first assignment of least depth. Where
no assignment stands deeper than a later one, this is the order of the source. -/
theorem initializer_fields {nameSpace name : String} {decorators bases : List Expr}
    {keywords : List Keyword} {body : List Statement} {d : TypeDeclaration}
    {baseTexts : List String}
    (h : classDeclaration nameSpace name decorators bases keywords body = .ok d)
    (noEnum : d.kind ≠ .enumType) (written : bases.mapM baseText = .ok baseTexts) :
    FieldsInOrder (freezes decorators baseTexts) (classLevelNames body) (levelAssignments body)
      d.fields ∧
    (levelAssignments body).Perm (sourceAssignments body) ∧
    ((∀ s ∈ body, (initializerAssignments s).Pairwise fun p q => p.1 ≤ q.1) →
      FieldsInOrder (freezes decorators baseTexts) (classLevelNames body) (sourceAssignments body)
        d.fields) := by
  obtain ⟨texts, written', found⟩ := (classDeclaration_parts h).2.2.resolve_left noEnum
  cases written.symm.trans written'
  have inOrder := fieldsInOrder found
  refine ⟨inOrder, levelAssignments_perm body, fun ascending => ?_⟩
  rw [← levelAssignments_of_ascending ascending]
  exact inOrder

/-- An assignment in a branch behind another one leaves the order of the source. -/
theorem initializer_fields_ordered :
    let body : List Statement := [.annotated (.name "a") (.name "int") none,
      .functionDef false "__init__" []
        [.mk .positional "self" none none, .mk .positional "b" (some (.name "str")) none] none
        [.assign [.member (.name "self") "b"] (.name "b"),
          .compound .branch [.assign [.member (.name "self") "c"] (.name "b")]]]
    ∃ d, classDeclaration "a" "A" [] [] [] body = .ok d ∧ d.kind ≠ .enumType ∧
      d.fields.map (·.name) = ["a", "b", "c"] ∧
      FieldsInOrder (freezes [] []) (classLevelNames body) (sourceAssignments body) d.fields := by
  intro body
  have declared : classDeclaration "a" "A" [] [] [] body = .ok _ := rfl
  refine ⟨_, declared, by decide, rfl, ?_⟩
  apply (initializer_fields declared (by decide) rfl).2.2
  decide

def branchedText : String :=
  "class A:\n def __init__(self, a: int, b: str):\n  if a: self.x = a\n  self.y = b\n" ++
    "  self.x = b\n"

/-- An assignment in a branch comes behind those outside of it. -/
theorem branched_assignment_comes_later :
    ∃ body c d, parseModule branchedText = some body ∧ openClasses "a" body = [c] ∧
      moduleDeclarations "a.py" branchedText = .ok [d] ∧ d.kind = .classType ∧
      d.fields.map (·.name) = ["y", "x"] ∧
      ∀ isFrozen, ¬FieldsInOrder isFrozen (classLevelNames c.body) (sourceAssignments c.body)
        d.fields := by
  have read : ((parseModule branchedText).map fun body => (openClasses "a" body).map fun c =>
      (classLevelNames c.body ++ (sourceAssignments c.body).map (·.name)).eraseDups) =
        some [["x", "y"]] := by
    decide +kernel
  have found : ((moduleDeclarations "a.py" branchedText).map fun ds =>
      ds.map fun d => (d.kind, d.fields.map (·.name))) = .ok [(.classType, ["y", "x"])] := by
    decide +kernel
  obtain ⟨body, parsed, inSource⟩ := Option.map_eq_some_iff.mp read
  obtain ⟨c, classes, inSource⟩ := List.map_eq_singleton_iff.mp inSource
  obtain ⟨ds, declared, single⟩ := map_eq_ok_iff.mp found
  obtain ⟨d, rfl, fields⟩ := List.map_eq_singleton_iff.mp single
  obtain ⟨kind, names⟩ := Prod.mk.inj fields
  refine ⟨body, c, d, parsed, classes, declared, kind, names, fun isFrozen follows => ?_⟩
  have same := follows.names
  rw [names, inSource] at same
  revert same
  decide

end TacticalDesign.Source
