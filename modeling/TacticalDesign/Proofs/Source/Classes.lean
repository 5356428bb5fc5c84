import Mathlib
import TacticalDesign.Proofs.Except
import TacticalDesign.Source.Module
/-!
# The classes of a module

A class statement outside of functions stands in a module, in class bodies, and in the blocks of
other compound statements. The declarations of a module are those of the classes that stand in no
block, one for each in the order of the source.
-/

namespace TacticalDesign.Source

structure ClassPlace where
  nameSpace : String
  /-- Whether a block of a compound statement stands around it. -/
  inBlock : Bool
  name : String
  decorators : List Expr
  bases : List Expr
  keywords : List Keyword
  body : List Statement

namespace ClassPlace

def declaration (c : ClassPlace) : Except TextError TypeDeclaration :=
  classDeclaration c.nameSpace c.name c.decorators c.bases c.keywords c.body

def Declares (c : ClassPlace) (d : TypeDeclaration) : Prop :=
  c.declaration = .ok d ∧ d.name = c.name ∧ d.nameSpace = c.nameSpace

end ClassPlace

mutual

/-- The class statements of a statement outside of functions, a class before those in its body. -/
def classesOf (nameSpace : String) (inBlock : Bool) : Statement → List ClassPlace
  | .classDef name decorators bases keywords body =>
    ⟨nameSpace, inBlock, name, decorators, bases, keywords, body⟩ ::
      classesIn (qualify nameSpace name) inBlock body
  | .compound _ parts => classesIn nameSpace true parts
  | .clause body => classesIn nameSpace true body
  | _ => []

def classesIn (nameSpace : String) (inBlock : Bool) : List Statement → List ClassPlace
  | [] => []
  | s :: rest => classesOf nameSpace inBlock s ++ classesIn nameSpace inBlock rest

end

/-- The class statements of a module that stand in no block. -/
def openClasses (nameSpace : String) (body : List Statement) : List ClassPlace :=
  (classesIn nameSpace false body).filter fun c => !c.inBlock

/-! ## What stands in a block -/

mutual

theorem inBlock_of_mem_classesOf {nameSpace : String} {s : Statement} {c : ClassPlace}
    (h : c ∈ classesOf nameSpace true s) : c.inBlock = true := by
  cases s with
  | classDef name decorators bases keywords body =>
      rw [classesOf] at h
      rcases List.mem_cons.mp h with rfl | h
      · rfl
      · exact inBlock_of_mem_classesIn h
  | compound kind parts =>
      rw [classesOf] at h
      exact inBlock_of_mem_classesIn h
  | clause body =>
      rw [classesOf] at h
      exact inBlock_of_mem_classesIn h
  | _ =>
      simp [classesOf] at h

theorem inBlock_of_mem_classesIn {nameSpace : String} {body : List Statement} {c : ClassPlace}
    (h : c ∈ classesIn nameSpace true body) : c.inBlock = true := by
  cases body with
  | nil => simp [classesIn] at h
  | cons s rest =>
      rw [classesIn] at h
      rcases List.mem_append.mp h with h | h
      · exact inBlock_of_mem_classesOf h
      · exact inBlock_of_mem_classesIn h

end

theorem filter_block (nameSpace : String) (body : List Statement) :
    (classesIn nameSpace true body).filter (fun c => !c.inBlock) = [] :=
  List.filter_eq_nil_iff.mpr fun c hc => by simp [inBlock_of_mem_classesIn hc]

/-! ## What is declared -/

mutual

theorem declarationsOf_eq (nameSpace : String) (s : Statement) :
    declarationsOf nameSpace s =
      ((classesOf nameSpace false s).filter fun c => !c.inBlock).mapM (·.declaration) := by
  cases s with
  | classDef name decorators bases keywords body =>
      rw [declarationsOf, classesOf, List.filter_cons_of_pos rfl, List.mapM_cons,
        declarationsIn_eq (qualify nameSpace name) body, openClasses]
      rfl
  | compound kind parts =>
      rw [declarationsOf, classesOf, filter_block]
      · rfl
      · exact nofun
  | clause body =>
      rw [declarationsOf, classesOf, filter_block]
      · rfl
      · exact nofun
  | _ => simp [declarationsOf, classesOf]; rfl

theorem declarationsIn_eq (nameSpace : String) (body : List Statement) :
    declarationsIn nameSpace body = (openClasses nameSpace body).mapM (·.declaration) := by
  cases body with
  | nil => rfl
  | cons s rest =>
      rw [declarationsIn, declarationsOf_eq nameSpace s, declarationsIn_eq nameSpace rest,
        openClasses, openClasses, classesIn, List.filter_append, List.mapM_append]

end

/-- Whether no field of a class can be reassigned: it is a record by its decorator or a base. -/
def freezes (decorators : List Expr) (baseTexts : List String) : Bool :=
  (recordFlags decorators).any (fun flags => (flags.lookup "frozen").getD false) ||
    baseTexts.any fun b => simpleName b ∈ recordBases

theorem classDeclaration_parts {nameSpace name : String} {decorators bases : List Expr}
    {keywords : List Keyword} {body : List Statement} {d : TypeDeclaration}
    (h : classDeclaration nameSpace name decorators bases keywords body = .ok d) :
    d.name = name ∧ d.nameSpace = nameSpace ∧
      (d.kind = .enumType ∨ ∃ baseTexts, bases.mapM baseText = .ok baseTexts ∧
        fieldsOf (freezes decorators baseTexts) body = .ok d.fields) := by
  obtain ⟨baseTexts, written, h⟩ := bind_eq_ok.mp h
  obtain ⟨_, -, h⟩ := bind_eq_ok.mp h
  obtain ⟨_, -, h⟩ := bind_eq_ok.mp h
  obtain ⟨fields, found, h⟩ := ite_bind_eq_ok.mp h
  cases h
  refine ⟨rfl, rfl, or_iff_not_imp_left.mpr fun noEnum => ⟨baseTexts, written, ?_⟩⟩
  rw [if_neg noEnum] at found
  exact found

namespace ClassPlace

/-- A declaration has the name of its class and the namespace that the class stands in. -/
theorem declares_iff {c : ClassPlace} {d : TypeDeclaration} :
    c.Declares d ↔ c.declaration = .ok d := by
  refine ⟨fun h => h.1, fun h => ?_⟩
  have parts := classDeclaration_parts h
  exact ⟨h, parts.1, parts.2.1⟩

end ClassPlace

theorem declarationsIn_eq_ok {nameSpace : String} {body : List Statement}
    {ds : List TypeDeclaration} :
    declarationsIn nameSpace body = .ok ds ↔
      List.Forall₂ ClassPlace.Declares (openClasses nameSpace body) ds := by
  rw [declarationsIn_eq, mapM_eq_ok_iff]
  have same : ClassPlace.Declares = fun c d => c.declaration = .ok d :=
    funext₂ fun c d => propext ClassPlace.declares_iff
  rw [same]

/-! ## The classes of a module -/

theorem moduleDeclarations_eq_ok {path source nameSpace : String} {body : List Statement}
    {ds : List TypeDeclaration} (parsed : parseModule source = some body)
    (named : moduleName (Path.ofText path) = .ok nameSpace) :
    moduleDeclarations path source = .ok ds ↔ declarationsIn nameSpace body = .ok ds := by
  simp only [moduleDeclarations, parsed, named]
  cases declarationsIn nameSpace body with
  | error e => simp
  | ok found => simp

theorem moduleName_top : moduleName (Path.ofText "a.py") = .ok "a" := by decide +kernel

/-- A module has one declaration for each class outside of functions and blocks, in the order of
the source, and it has declarations when each of these classes does. Without classes in blocks
these are all the classes outside of functions. -/
theorem moduleDeclarations_classes {path source nameSpace : String} {body : List Statement}
    (parsed : parseModule source = some body)
    (named : moduleName (Path.ofText path) = .ok nameSpace) :
    (∀ ds, moduleDeclarations path source = .ok ds ↔
      List.Forall₂ ClassPlace.Declares (openClasses nameSpace body) ds) ∧
    ((∃ ds, moduleDeclarations path source = .ok ds) ↔
      ∀ c ∈ openClasses nameSpace body, ∃ d, c.declaration = .ok d) ∧
    ((∀ c ∈ classesIn nameSpace false body, c.inBlock = false) →
      ∀ ds, moduleDeclarations path source = .ok ds ↔
        List.Forall₂ ClassPlace.Declares (classesIn nameSpace false body) ds) := by
  have declared ds : moduleDeclarations path source = .ok ds ↔
      List.Forall₂ ClassPlace.Declares (openClasses nameSpace body) ds :=
    (moduleDeclarations_eq_ok parsed named).trans declarationsIn_eq_ok
  refine ⟨declared, ?_, fun unblocked => ?_⟩
  · simp only [moduleDeclarations_eq_ok parsed named, declarationsIn_eq]
    exact exists_mapM_iff
  · have all : openClasses nameSpace body = classesIn nameSpace false body :=
      List.filter_eq_self.mpr fun c hc => by simp [unblocked c hc]
    rwa [all] at declared

/-- A class and the class in its body, in a module of a package. -/
theorem moduleDeclarations_classes_nested :
    ∃ body a b,
      parseModule "class A:\n    class B:\n        pass\n" = some body ∧
      moduleName (Path.ofText "pkg/shop.py") = .ok "pkg.shop" ∧
      classesIn "pkg.shop" false body = [a, b] ∧
      (a.nameSpace, a.name) = ("pkg.shop", "A") ∧ (b.nameSpace, b.name) = ("pkg.shop.A", "B") ∧
      ∀ ds, moduleDeclarations "pkg/shop.py" "class A:\n    class B:\n        pass\n" = .ok ds ↔
        List.Forall₂ ClassPlace.Declares [a, b] ds := by
  have parsed : parseModule "class A:\n    class B:\n        pass\n" =
      some [.classDef "A" [] [] [] [.classDef "B" [] [] [] [.pass]]] := by cbv
  have named : moduleName (Path.ofText "pkg/shop.py") = .ok "pkg.shop" := by cbv
  have all := (moduleDeclarations_classes parsed named).2.2 (by decide)
  exact ⟨_, _, _, parsed, named, rfl, rfl, rfl, all⟩

/-- A class in a branch is left out, though it would be declared. -/
theorem class_in_branch_undeclared :
    ∃ body, parseModule "if True:\n    class A:\n        pass\n" = some body ∧
      moduleName (Path.ofText "a.py") = .ok "a" ∧
      (classesIn "a" false body).mapM (·.declaration) = .ok [{ name := "A", nameSpace := "a" }] ∧
      moduleDeclarations "a.py" "if True:\n    class A:\n        pass\n" = .ok [] := by
  have parsed : parseModule "if True:\n    class A:\n        pass\n" =
      some [.compound .branch [.classDef "A" [] [] [] [.pass]]] := by cbv
  have named : moduleName (Path.ofText "a.py") = .ok "a" := by cbv
  refine ⟨_, parsed, named, rfl, ?_⟩
  exact (moduleDeclarations_eq_ok parsed named).mpr rfl

end TacticalDesign.Source
