import Mathlib
import TacticalDesign.Proofs.Order
import TacticalDesign.Proofs.Source.Classes
import TacticalDesign.Proofs.Source.Marks
/-!
# The fields of a class

A name that is annotated in a class body becomes a field unless all its annotations look like marks
of class variables and no initializer assigns it. The first of the other annotations tells its type
and whether it can be reassigned.
-/

namespace TacticalDesign.Source

/-! ## Annotated and assigned names -/

def annotationOf (x : String) : Statement → List Expr
  | .annotated (.name id) typeExpr _ => if id = x then [typeExpr] else []
  | _ => []

def annotationsOf (x : String) (body : List Statement) : List Expr :=
  body.flatMap (annotationOf x)

def selfNames : Statement → List String
  | .annotated target _ _ => (selfTarget? target).toList
  | .assign targets _ => targets.filterMap selfTarget?
  | _ => []

def initializerNames : Statement → List String
  | .functionDef false "__init__" _ _ _ body => (Statement.walk body).flatMap selfNames
  | _ => []

def assignedNames (body : List Statement) : List String := body.flatMap initializerNames

/-- How the annotations of a name decide over its field, where `marked` tells which of them are
marks and `typeText` what they declare: the first that marks no class variable counts. -/
structure FieldFollows (marked : String → Expr → Bool) (typeText : Expr → Written)
    (isFrozen : Bool) (body : List Statement) (fields : List FieldDeclaration) (x : String) :
    Prop where
  isField : (∃ f ∈ fields, f.name = x) ↔
    (∃ e ∈ annotationsOf x body, marked "ClassVar" e = false) ∨ x ∈ assignedNames body
  decides : ∀ e, (annotationsOf x body).find? (fun e => !marked "ClassVar" e) = some e →
    ∀ f ∈ fields, f.name = x →
      (f.isMutable = false ↔ isFrozen = true ∨ marked "Final" e = true) ∧
      ∃ t, typeText e = .ok t ∧ f.declaredType = some t

/-! ## The first field of a name -/

theorem find?_foldl_addField (x : String) (fields acc : List FieldDeclaration) :
    (fields.foldl addField acc).find? (·.name == x) = (acc ++ fields).find? (·.name == x) := by
  induction fields generalizing acc with
  | nil => simp
  | cons f fields ih =>
      rw [List.foldl_cons, ih, addField]
      split
      · rename_i known
        obtain ⟨g, hg, same⟩ := List.any_eq_true.mp known
        rw [List.find?_append, List.find?_append, List.find?_cons]
        split
        · rename_i named
          -- a field of this name stands in front already
          have found : (acc.find? (·.name == x)).isSome := by
            rw [List.find?_isSome]
            exact ⟨g, hg, by simp_all⟩
          rw [Option.or_of_isSome found, Option.or_of_isSome found]
        · rfl
      · rw [List.append_assoc, List.singleton_append]

theorem nodup_addField {acc : List FieldDeclaration} (f : FieldDeclaration)
    (h : (acc.map (·.name)).Nodup) : ((addField acc f).map (·.name)).Nodup := by
  unfold addField
  split
  · exact h
  · rename_i fresh
    rw [List.map_append, List.nodup_append]
    refine ⟨h, List.nodup_singleton _, fun a ha b hb => ?_⟩
    obtain ⟨g, hg, rfl⟩ := List.mem_map.mp ha
    rintro rfl
    simp_all

theorem nodup_foldl_addField {fields acc : List FieldDeclaration}
    (h : (acc.map (·.name)).Nodup) : ((fields.foldl addField acc).map (·.name)).Nodup := by
  induction fields generalizing acc with
  | nil => exact h
  | cons f fields ih => exact ih (nodup_addField f h)

theorem mem_foldl_addField {x : String} {found : List FieldDeclaration} {f : FieldDeclaration} :
    f ∈ found.foldl addField [] ∧ f.name = x ↔ found.find? (·.name == x) = some f := by
  have distinct : ((found.foldl addField []).map (·.name)).Nodup :=
    nodup_foldl_addField List.nodup_nil
  rw [← find?_key_iff FieldDeclaration.name distinct, find?_foldl_addField, List.nil_append]

/-! ## What is found -/

def DeclaredBy (isFrozen : Bool) (x : String) (e : Expr) (f : FieldDeclaration) : Prop :=
  ∃ t, e.text = .ok t ∧ f = fieldOf isFrozen x (some t)

theorem declared_annotatedField {isFrozen : Bool} {x : String} {s : Statement}
    {found : Option FieldDeclaration} (h : annotatedField isFrozen s = .ok found) :
    List.Forall₂ (DeclaredBy isFrozen x)
      ((annotationOf x s).filter (fun e => !e.leads "ClassVar"))
      (found.toList.filter (·.name == x)) := by
  unfold annotatedField at h
  split at h
  · rename_i id typeExpr value
    obtain ⟨text, written, h⟩ := bind_eq_ok.mp h
    cases h
    have marked : isClassVariable text = typeExpr.leads "ClassVar" :=
      Expr.startsWithMark_text (by decide) written
    rw [marked, annotationOf]
    by_cases named : id = x
    · subst named
      cases leading : typeExpr.leads "ClassVar"
      · simpa [leading, fieldOf] using ⟨text, written, rfl⟩
      · simp [leading]
    · cases leading : typeExpr.leads "ClassVar" <;> simp [named, fieldOf]
  · rename_i other
    cases h
    have nothing : annotationOf x s = [] := by
      unfold annotationOf
      split
      · exact absurd rfl (other _ _ _)
      · rfl
    rw [nothing]
    exact .nil

theorem declared_mapM {isFrozen : Bool} {x : String} {body : List Statement}
    {found : List (Option FieldDeclaration)} (h : body.mapM (annotatedField isFrozen) = .ok found) :
    List.Forall₂ (DeclaredBy isFrozen x)
      ((annotationsOf x body).filter (fun e => !e.leads "ClassVar"))
      ((found.filterMap id).filter (·.name == x)) := by
  induction body generalizing found with
  | nil =>
      cases h
      exact .nil
  | cons s body ih =>
      obtain ⟨first, later, hfirst, hlater, rfl⟩ := mapM_cons_eq_ok.mp h
      have split : (first :: later).filterMap id = first.toList ++ later.filterMap id := by
        cases first <;> rfl
      rw [annotationsOf, List.flatMap_cons, List.filter_append, split, List.filter_append]
      exact List.rel_append (declared_annotatedField hfirst) (ih hlater)

theorem names_assignedFields {isFrozen : Bool} {types : List (String × String)} {s : Statement}
    {fs : List FieldDeclaration} (h : assignedFields isFrozen types s = .ok fs) :
    fs.map (·.name) = selfNames s := by
  unfold assignedFields at h
  split at h
  · obtain ⟨text, -, h⟩ := bind_eq_ok.mp h
    cases h
    simp [selfNames, fieldOf, Function.comp_def]
  · cases h
    simp [selfNames, fieldOf, Function.comp_def]
  · rename_i unannotated unassigned
    cases h
    unfold selfNames
    split
    · exact absurd rfl (unannotated _ _ _)
    · exact absurd rfl (unassigned _ _)
    · rfl

theorem names_initializerFields {isFrozen : Bool} {s : Statement} {fs : List FieldDeclaration}
    (h : initializerFields isFrozen s = .ok fs) : fs.map (·.name) = initializerNames s := by
  unfold initializerFields at h
  split at h
  · obtain ⟨types, -, h⟩ := bind_eq_ok.mp h
    obtain ⟨found, each, h⟩ := bind_eq_ok.mp h
    cases h
    rw [List.map_flatten, map_of_mapM names_assignedFields each, initializerNames,
      List.flatMap_def]
  · rename_i other
    cases h
    unfold initializerNames
    split
    · exact absurd rfl (other _ _ _ _)
    · rfl

theorem names_assigned {isFrozen : Bool} {body : List Statement}
    {found : List (List FieldDeclaration)}
    (h : body.mapM (initializerFields isFrozen) = .ok found) :
    found.flatten.map (·.name) = assignedNames body := by
  rw [List.map_flatten, map_of_mapM names_initializerFields h, assignedNames, List.flatMap_def]

/-! ## The fields of a class body -/

theorem fieldsOf_eq_ok {isFrozen : Bool} {body : List Statement} {fields : List FieldDeclaration}
    (h : fieldsOf isFrozen body = .ok fields) :
    ∃ annotated assigned, body.mapM (annotatedField isFrozen) = .ok annotated ∧
      body.mapM (initializerFields isFrozen) = .ok assigned ∧
      fields = (annotated.filterMap id ++ assigned.flatten).foldl addField [] := by
  obtain ⟨annotated, hannotated, h⟩ := bind_eq_ok.mp h
  obtain ⟨assigned, hassigned, h⟩ := bind_eq_ok.mp h
  cases h
  exact ⟨annotated, assigned, hannotated, hassigned, rfl⟩

theorem DeclaredBy.follows {isFrozen : Bool} {x : String} {e : Expr} {f : FieldDeclaration}
    (h : DeclaredBy isFrozen x e f) :
    (f.isMutable = false ↔ isFrozen = true ∨ e.leads "Final" = true) ∧
      ∃ t, e.text.map withoutFinal = .ok t ∧ f.declaredType = some t := by
  obtain ⟨text, written, rfl⟩ := h
  have marked : isFinal text = e.leads "Final" := Expr.startsWithMark_text (by decide) written
  constructor
  · simp only [fieldOf, Option.any_some, marked]
    cases isFrozen <;> cases e.leads "Final" <;> simp
  · exact ⟨withoutFinal text, by rw [written]; rfl, rfl⟩

/-- Items that pass a test on one side come with items that pass one on the other. -/
theorem exists_iff_of_filter {α β : Type} {R : α → β → Prop} {p : α → Bool} {q : β → Bool}
    {l : List α} {r : List β} (h : List.Forall₂ R (l.filter p) (r.filter q)) :
    (∃ b ∈ r, q b = true) ↔ ∃ a ∈ l, p a = true := by
  have nonempty : (∃ b ∈ r, q b = true) ↔ r.filter q ≠ [] := by simp [List.filter_eq_nil_iff]
  have nonempty' : (∃ a ∈ l, p a = true) ↔ l.filter p ≠ [] := by simp [List.filter_eq_nil_iff]
  rw [nonempty, nonempty', ← List.length_pos_iff, ← List.length_pos_iff, h.length_eq]

theorem follows_leads {isFrozen : Bool} {body : List Statement} {fields : List FieldDeclaration}
    (h : fieldsOf isFrozen body = .ok fields) (x : String) :
    FieldFollows (fun mark e => e.leads mark) (fun e => e.text.map withoutFinal) isFrozen body
      fields x := by
  obtain ⟨annotated, assigned, hannotated, hassigned, rfl⟩ := fieldsOf_eq_ok h
  have declared := declared_mapM (x := x) hannotated
  constructor
  · have byAnnotation := exists_iff_of_filter declared
    have byName : (∃ f ∈ assigned.flatten, (f.name == x) = true) ↔ x ∈ assignedNames body := by
      rw [← names_assigned hassigned, List.mem_map]
      simp only [beq_iff_eq]
    simp only [mem_foldl_addField, ← Option.isSome_iff_exists, List.find?_isSome, List.mem_append,
      or_and_right, exists_or, byAnnotation, byName, Bool.not_eq_true']
  · intro e first f hf named
    have found := mem_foldl_addField.mp ⟨hf, named⟩
    rw [← List.head?_filter] at first
    rw [List.find?_append, ← List.head?_filter] at found
    obtain ⟨es, split⟩ := List.head?_eq_some_iff.mp first
    rw [split] at declared
    obtain ⟨g, gs, decl, -, split'⟩ := List.forall₂_cons_left_iff.mp declared
    rw [split', List.head?_cons, Option.some_or, Option.some.injEq] at found
    exact (found ▸ decl).follows

theorem FieldFollows.of_plain {isFrozen : Bool} {body : List Statement}
    {fields : List FieldDeclaration} {x : String}
    (h : FieldFollows (fun mark e => e.leads mark) (fun e => e.text.map withoutFinal) isFrozen body
      fields x)
    (plain : ∀ e ∈ annotationsOf x body, ∀ mark ∈ ["ClassVar", "Final"],
      e.leads mark = true → e.isMark mark = true) :
    FieldFollows (fun mark e => e.isMark mark) Expr.declaredText isFrozen body fields x := by
  have same : ∀ e ∈ annotationsOf x body, ∀ mark ∈ ["ClassVar", "Final"],
      e.leads mark = e.isMark mark := fun e he mark hm =>
    Bool.eq_iff_iff.mpr ⟨plain e he mark hm, Expr.leads_of_isMark⟩
  constructor
  · rw [h.isField]
    refine or_congr_left (exists_congr fun e => and_congr_right fun he => ?_)
    rw [same e he "ClassVar" (by decide)]
  · intro e first f hf named
    have he := List.mem_of_find?_eq_some first
    have first' : (annotationsOf x body).find? (fun e => !e.leads "ClassVar") = some e := by
      rw [← List.head?_filter] at first ⊢
      rw [← first]
      exact congrArg List.head? (List.filter_congr fun e he => by
        rw [same e he "ClassVar" (by decide)])
    obtain ⟨isMutable, t, taken, declared⟩ := h.decides e first' f hf named
    rw [same e he "Final" (by decide)] at isMutable
    refine ⟨isMutable, t, ?_, declared⟩
    cases written : e.text with
    | error e =>
        rw [written] at taken
        cases taken
    | ok text =>
        rw [written] at taken
        cases taken
        exact Expr.declaredText_eq written (plain e he "Final" (by decide))

/-- In the declaration of a class that is no enum, the annotations of a name decide over its field
by what looks like a mark. Where nothing but marks looks like one, a name becomes a field unless
all its annotations are `ClassVar` and no initializer assigns it; the first of the others tells
whether it can be reassigned, which it cannot in a frozen class or under `Final`, and its type. -/
theorem annotated_fields {nameSpace name : String} {decorators bases : List Expr}
    {keywords : List Keyword} {body : List Statement} {d : TypeDeclaration}
    {baseTexts : List String}
    (h : classDeclaration nameSpace name decorators bases keywords body = .ok d)
    (noEnum : d.kind ≠ .enumType) (written : bases.mapM baseText = .ok baseTexts) (x : String) :
    FieldFollows (fun mark e => e.leads mark) (fun e => e.text.map withoutFinal)
      (freezes decorators baseTexts) body d.fields x ∧
    ((∀ e ∈ annotationsOf x body, ∀ mark ∈ ["ClassVar", "Final"],
        e.leads mark = true → e.isMark mark = true) →
      FieldFollows (fun mark e => e.isMark mark) Expr.declaredText
        (freezes decorators baseTexts) body d.fields x) := by
  obtain ⟨texts, written', found⟩ := (classDeclaration_parts h).2.2.resolve_left noEnum
  cases written.symm.trans written'
  have follows := follows_leads found x
  exact ⟨follows, follows.of_plain⟩

/-- A constant and a variable of the class, told apart by their marks. -/
theorem annotated_fields_constant :
    ∃ body d,
      parseModule "class A:\n    price: Final[int]\n    rate: typing.ClassVar[str]\n" =
        some [.classDef "A" [] [] [] body] ∧
      classDeclaration "a" "A" [] [] [] body = .ok d ∧ d.kind ≠ .enumType ∧
      d.fields = [{ name := "price", declaredType := some "int", isMutable := false }] ∧
      ∀ x ∈ ["price", "rate"], FieldFollows (fun mark e => e.isMark mark) Expr.declaredText
        (freezes [] []) body d.fields x := by
  have parsed : parseModule "class A:\n    price: Final[int]\n    rate: typing.ClassVar[str]\n" =
      some [.classDef "A" [] [] [] [
        .annotated (.name "price") (.subscript (.name "Final") (.name "int")) none,
        .annotated (.name "rate")
          (.subscript (.member (.name "typing") "ClassVar") (.name "str")) none]] := by cbv
  have declared : classDeclaration "a" "A" [] [] [] [
        .annotated (.name "price") (.subscript (.name "Final") (.name "int")) none,
        .annotated (.name "rate")
          (.subscript (.member (.name "typing") "ClassVar") (.name "str")) none] =
      .ok { name := "A", nameSpace := "a", fields := [
        { name := "price", declaredType := some "int", isMutable := false }] } := rfl
  refine ⟨_, _, parsed, declared, by decide, rfl, fun x hx => ?_⟩
  refine (annotated_fields declared (by decide) rfl x).2 ?_
  rcases List.mem_pair.mp hx with rfl | rfl <;> decide

/-- Names that begin like marks: one is no field, the other cannot be reassigned. -/
theorem names_like_marks_taken :
    ∃ body d,
      parseModule "class A:\n    rate: ClassVariant\n    price: FinalPrice\n" =
        some [.classDef "A" [] [] [] body] ∧
      moduleDeclarations "a.py" "class A:\n    rate: ClassVariant\n    price: FinalPrice\n" =
        .ok [d] ∧ d.kind ≠ .enumType ∧
      ∀ x ∈ ["rate", "price"], ¬FieldFollows (fun mark e => e.isMark mark) Expr.declaredText
        (freezes [] []) body d.fields x := by
  have parsed : parseModule "class A:\n    rate: ClassVariant\n    price: FinalPrice\n" =
      some [.classDef "A" [] [] [] [.annotated (.name "rate") (.name "ClassVariant") none,
        .annotated (.name "price") (.name "FinalPrice") none]] := by cbv
  have named : moduleName (Path.ofText "a.py") = .ok "a" := by cbv
  have declared :
      moduleDeclarations "a.py" "class A:\n    rate: ClassVariant\n    price: FinalPrice\n" =
        .ok [{ name := "A", nameSpace := "a", fields := [
          { name := "price", declaredType := some "FinalPrice", isMutable := false }] }] :=
    (moduleDeclarations_eq_ok parsed named).mpr rfl
  refine ⟨_, _, parsed, declared, by decide, fun x hx follows => ?_⟩
  rcases List.mem_pair.mp hx with rfl | rfl
  · have missing := follows.isField.mpr (.inl (by decide))
    revert missing
    decide
  · have frozen := (follows.decides (.name "FinalPrice") rfl _ (List.mem_singleton.mpr rfl) rfl).1
    revert frozen
    decide

end TacticalDesign.Source
