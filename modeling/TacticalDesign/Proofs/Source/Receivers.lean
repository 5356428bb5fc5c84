import TacticalDesign.Proofs.Source.Classes
import TacticalDesign.Proofs.Source.Signatures
/-!
# Receivers and parameter types

A method is called with all of its parameters but the receiver: the first one passed by position,
of a method that is not static. The declaration of a method lists the types of the parameters that
are passed one by one, without the first of them. A type is lost where a parameter takes several
arguments, and where the first parameter is passed by keyword alone.
-/

namespace TacticalDesign.Source

def isPositional (p : Parameter) : Bool := p.kind = .positionalOnly || p.kind = .positional

def annotatedTexts (parameters : List Parameter) : Except TextError (List String) :=
  (parameters.filterMap (·.typeExpr)).mapM (·.text)

structure MethodPlace where
  name : String
  decorators : List Expr
  parameters : List Parameter

namespace MethodPlace

variable (m : MethodPlace)

def isStatic : Bool := "staticmethod" ∈ m.decorators.map decoratorName

def passed : List Parameter :=
  if m.isStatic then m.parameters else m.parameters.eraseP isPositional

def singles : List Parameter := m.parameters.filter isSingleParameter

/-- The parameters that a declaration lists the types of. -/
def listed : List Parameter := if m.isStatic then m.singles else m.singles.drop 1

/-- No type is lost: a parameter that takes several arguments has none, nor has one that is left
out as the receiver without being one. -/
structure Complete : Prop where
  several : ∀ p ∈ m.parameters, isSingleParameter p = false → p.typeExpr = none
  receiver : m.isStatic = false → ∀ p ∈ m.singles.head?, isPositional p = false → p.typeExpr = none

instance : Decidable m.Complete :=
  decidable_of_iff ((∀ p ∈ m.parameters, isSingleParameter p = false → p.typeExpr = none) ∧
      (m.isStatic = false → ∀ p ∈ m.singles.head?, isPositional p = false → p.typeExpr = none))
    ⟨fun h => ⟨h.1, h.2⟩, fun h => ⟨h.several, h.receiver⟩⟩

def ListsPassed (d : MethodDeclaration) : Prop := annotatedTexts m.passed = .ok d.parameterTypes

structure Describes (d : MethodDeclaration) : Prop where
  name : d.name = m.name
  types : annotatedTexts m.listed = .ok d.parameterTypes
  passed_iff : m.ListsPassed d ↔ m.Complete

end MethodPlace

def methodPlace? : Statement → Option MethodPlace
  | .functionDef _ name decorators parameters _ _ => some ⟨name, decorators, parameters⟩
  | _ => none

def methodPlaces (body : List Statement) : List MethodPlace := body.filterMap methodPlace?

/-! ## Annotations that are left out -/

section Leaving

variable {α β : Type} {f : α → Option β}

theorem filterMap_filter_eq_iff {q : α → Bool} {l : List α} :
    (l.filter q).filterMap f = l.filterMap f ↔ ∀ a ∈ l, q a = false → f a = none := by
  induction l with
  | nil => simp
  | cons a l ih =>
      rw [List.forall_mem_cons, ← ih]
      cases keeps : q a with
      | true =>
          rw [List.filter_cons_of_pos keeps]
          cases value : f a with
          | none => simp [value]
          | some b => simp [value]
      | false =>
          rw [List.filter_cons_of_neg (by simp [keeps])]
          cases value : f a with
          | none => simp [value]
          | some b =>
              -- the list yields one more than what is left of it
              have short : ((l.filter q).filterMap f).length ≤ (l.filterMap f).length :=
                (List.filter_sublist.filterMap f).length_le
              rw [List.filterMap_cons_some value]
              constructor
              · intro same
                have longer := congrArg List.length same
                rw [List.length_cons] at longer
                omega
              · rintro ⟨empty, -⟩
                cases empty rfl

theorem eq_iff_of_sublists {a b c : List β} (hab : a.Sublist b) (hbc : b.Sublist c) :
    a = c ↔ a = b ∧ b = c := by
  constructor
  · intro same
    have full : b = c := hbc.eq_of_length_le (same ▸ hab.length_le)
    exact ⟨same.trans full.symm, full⟩
  · rintro ⟨rfl, rfl⟩
    rfl

theorem filter_eraseP {p q : α → Bool} (implies : ∀ a, p a = true → q a = true) (l : List α) :
    (l.eraseP p).filter q = (l.filter q).eraseP p := by
  induction l with
  | nil => rfl
  | cons a l ih =>
      cases hp : p a with
      | true => rw [List.eraseP_cons_of_pos hp, List.filter_cons_of_pos (implies a hp),
          List.eraseP_cons_of_pos hp]
      | false =>
          rw [List.eraseP_cons_of_neg (by simp [hp])]
          cases hq : q a with
          | true => rw [List.filter_cons_of_pos hq, List.filter_cons_of_pos hq,
              List.eraseP_cons_of_neg (by simp [hp]), ih]
          | false => rw [List.filter_cons_of_neg (by simp [hq]),
              List.filter_cons_of_neg (by simp [hq]), ih]

end Leaving

theorem isSingle_of_isPositional (p : Parameter) (h : isPositional p = true) :
    isSingleParameter p = true := by
  unfold isPositional at h
  unfold isSingleParameter
  rw [h, Bool.true_or]

theorem isPositional_iff {p : Parameter} :
    isPositional p = true ↔ p.kind.rank ≤ ParameterKind.positional.rank := by
  unfold isPositional
  cases p.kind <;> decide

theorem not_positional_of_head {p : Parameter} {ps : List Parameter}
    (ordered : InSignatureOrder (p :: ps)) (keyword : isPositional p = false) :
    ∀ q ∈ p :: ps, ¬isPositional q = true := by
  have behind : ¬p.kind.rank ≤ ParameterKind.positional.rank := by
    rw [← isPositional_iff, keyword]
    exact Bool.false_ne_true
  intro q hq
  rw [isPositional_iff]
  rcases List.mem_cons.mp hq with rfl | hq
  · exact behind
  · have later := (List.pairwise_cons.mp ordered).1 q hq
    omega

namespace MethodPlace

variable {m : MethodPlace}

/-- What takes one argument each of what is passed: all but the first of these parameters, if that
one is passed by position. -/
theorem filter_passed :
    m.passed.filter isSingleParameter =
      if m.isStatic then m.singles else m.singles.eraseP isPositional := by
  unfold passed singles
  split
  · rfl
  · exact filter_eraseP isSingle_of_isPositional m.parameters

/-- Of what takes one argument each, no type is lost just when the first parameter that is left out
is the receiver or has none. -/
theorem listed_eq_iff (ordered : InSignatureOrder m.parameters) :
    m.listed.Sublist (m.passed.filter isSingleParameter) ∧
    (m.listed.filterMap (·.typeExpr) =
        (m.passed.filter isSingleParameter).filterMap (·.typeExpr) ↔
      (m.isStatic = false →
        ∀ p ∈ m.singles.head?, isPositional p = false → p.typeExpr = none)) := by
  have inOrder : InSignatureOrder m.singles := ordered.sublist List.filter_sublist
  rw [filter_passed, listed]
  cases m.isStatic with
  | true => simp
  | false =>
      simp only [Bool.false_eq_true, if_false, true_implies]
      cases parameters : m.singles with
      | nil => simp
      | cons p ps =>
          rw [parameters] at inOrder
          rw [List.drop_one, List.tail_cons]
          -- a first one that is passed by keyword is left out without being the receiver
          cases first : isPositional p with
          | true =>
              rw [List.eraseP_cons_of_pos first]
              simp [first]
          | false =>
              rw [List.eraseP_of_forall_not (not_positional_of_head inOrder first)]
              refine ⟨List.sublist_cons_self p ps, ?_⟩
              cases value : p.typeExpr <;> simp [value, first]

theorem several_passed : (∀ p ∈ m.passed, isSingleParameter p = false → p.typeExpr = none) ↔
    ∀ p ∈ m.parameters, isSingleParameter p = false → p.typeExpr = none := by
  unfold passed
  split
  · rfl
  · constructor
    · intro h p hp several
      have kept : ¬isPositional p = true := fun first => by
        rw [isSingle_of_isPositional p first] at several
        cases several
      exact h p ((List.mem_eraseP_of_neg kept).mpr hp) several
    · intro h p hp
      exact h p (List.mem_of_mem_eraseP hp)

theorem passed_iff (ordered : InSignatureOrder m.parameters) {d : MethodDeclaration}
    (listed : annotatedTexts m.listed = .ok d.parameterTypes) : m.ListsPassed d ↔ m.Complete := by
  obtain ⟨sub, first⟩ := listed_eq_iff ordered
  have same : m.ListsPassed d ↔
      m.listed.filterMap (·.typeExpr) = m.passed.filterMap (·.typeExpr) := by
    constructor
    · intro all
      have lengths : (m.listed.filterMap (·.typeExpr)).length =
        (m.passed.filterMap (·.typeExpr)).length :=
        (forall₂_of_mapM listed).length_eq.trans (forall₂_of_mapM all).length_eq.symm
      exact ((sub.trans List.filter_sublist).filterMap _).eq_of_length lengths
    · intro same
      unfold ListsPassed annotatedTexts
      rw [← same]
      exact listed
  rw [same, eq_iff_of_sublists (sub.filterMap _) (List.filter_sublist.filterMap _), first,
    filterMap_filter_eq_iff, several_passed]
  exact ⟨fun h => ⟨h.2, h.1⟩, fun h => ⟨h.receiver, h.several⟩⟩

end MethodPlace

/-! ## The methods of a declaration -/

theorem Everywhere.of_mem_classesIn {P : Statement → Prop} {body : List Statement}
    (h : Everywhere P body) {nameSpace : String} {inBlock : Bool} {c : ClassPlace}
    (hc : c ∈ classesIn nameSpace inBlock body) : Everywhere P c.body := by
  induction h generalizing nameSpace inBlock with
  | nil => simp [classesIn] at hc
  | @cons s rest _ inside _ insideIH behindIH =>
      rw [classesIn] at hc
      rcases List.mem_append.mp hc with hc | hc
      · cases s with
        | classDef name decorators bases keywords body =>
            rw [classesOf] at hc
            rcases List.mem_cons.mp hc with rfl | hc
            · exact inside
            · exact insideIH hc
        | compound kind parts =>
            rw [classesOf] at hc
            exact insideIH hc
        | clause body =>
            rw [classesOf] at hc
            exact insideIH hc
        | _ => simp [classesOf] at hc
      · exact behindIH hc

theorem ordered_of_mem_methodPlaces {body : List Statement}
    (h : Everywhere Statement.Orderly body) {m : MethodPlace} (hm : m ∈ methodPlaces body) :
    InSignatureOrder m.parameters := by
  obtain ⟨s, hs, place⟩ := List.mem_filterMap.mp hm
  have orderly := h.of_mem hs
  cases s with
  | functionDef isAsync name decorators parameters returns body =>
      cases place
      exact orderly
  | _ => cases place

/-- What is declared of a method has its name, and the types of what is listed. -/
theorem rel_methodOf {isInterface : Bool} {s : Statement} {found : Option MethodDeclaration}
    (h : methodOf isInterface s = .ok found) :
    Option.Rel (fun m d => d.name = m.name ∧ annotatedTexts m.listed = .ok d.parameterTypes)
      (methodPlace? s) found := by
  unfold methodOf at h
  split at h
  · obtain ⟨returnText, -, h⟩ := bind_eq_ok.mp h
    obtain ⟨parameterText, -, h⟩ := bind_eq_ok.mp h
    obtain ⟨types, written, h⟩ := bind_eq_ok.mp h
    cases h
    refine .some ⟨rfl, ?_⟩
    simp only [annotatedTexts, MethodPlace.listed, MethodPlace.isStatic, MethodPlace.singles,
      decide_eq_true_eq]
    exact written
  · rename_i other
    cases h
    unfold methodPlace?
    split
    · exact absurd rfl (other _ _ _ _ _ _)
    · exact .none

theorem methods_of_classDeclaration {nameSpace name : String} {decorators bases : List Expr}
    {keywords : List Keyword} {body : List Statement} {d : TypeDeclaration}
    (h : classDeclaration nameSpace name decorators bases keywords body = .ok d) :
    ∃ isInterface found, body.mapM (methodOf isInterface) = .ok found ∧
      d.methods = found.filterMap id := by
  obtain ⟨_, -, h⟩ := bind_eq_ok.mp h
  obtain ⟨_, -, h⟩ := bind_eq_ok.mp h
  obtain ⟨found, written, h⟩ := bind_eq_ok.mp h
  obtain ⟨_, -, h⟩ := ite_bind_eq_ok.mp h
  cases h
  exact ⟨_, found, written, rfl⟩

/-- The methods of a class are described one by one, where their parameters are in order. -/
theorem describes_methods {c : ClassPlace} {d : TypeDeclaration} (h : c.declaration = .ok d)
    (ordered : ∀ m ∈ methodPlaces c.body, InSignatureOrder m.parameters) :
    List.Forall₂ MethodPlace.Describes (methodPlaces c.body) d.methods := by
  obtain ⟨isInterface, found, each, methods⟩ := methods_of_classDeclaration h
  rw [methods]
  have listed : List.Forall₂
      (fun m d => d.name = m.name ∧ annotatedTexts m.listed = .ok d.parameterTypes)
      (methodPlaces c.body) (found.filterMap id) :=
    List.rel_filterMap (fun _ _ written => rel_methodOf written) (forall₂_of_mapM each)
  refine ((List.forall₂_and_left _ _).mpr ⟨ordered, listed⟩).imp ?_
  rintro m d ⟨inOrder, name, types⟩
  exact ⟨name, types, MethodPlace.passed_iff inOrder types⟩

/-- The declarations of a module describe the methods of its classes one by one and in order. The
types of a method are those of the parameters that take one argument each, without the first of
them if the method is not static. They are the types of all that is passed to the method just when
no parameter that takes several arguments has a type, nor a first one that is passed by keyword. -/
theorem parameter_types {path source nameSpace : String} {body : List Statement}
    {ds : List TypeDeclaration} (parsed : parseModule source = some body)
    (named : moduleName (Path.ofText path) = .ok nameSpace)
    (declared : moduleDeclarations path source = .ok ds) :
    List.Forall₂ (fun c d => c.Declares d ∧
        List.Forall₂ MethodPlace.Describes (methodPlaces c.body) d.methods)
      (openClasses nameSpace body) ds := by
  have each := declarationsIn_eq_ok.mp ((moduleDeclarations_eq_ok parsed named).mp declared)
  have orderly := orderly_of_parseModule parsed
  have ordered : ∀ c ∈ openClasses nameSpace body,
      ∀ m ∈ methodPlaces c.body, InSignatureOrder m.parameters := fun c hc m hm =>
    ordered_of_mem_methodPlaces (orderly.of_mem_classesIn (List.mem_of_mem_filter hc)) hm
  refine ((List.forall₂_and_left _ _).mpr ⟨ordered, each⟩).imp ?_
  rintro c d ⟨inOrder, declares⟩
  exact ⟨declares, describes_methods declares.1 inOrder⟩

def mixedText : String :=
  "class A:\n def f(self, a: int, /, b: str, *rest, c: B = 1, **more): pass\n @staticmethod\n" ++
    " def g(d: B, e): pass\n"

/-- Without types at several arguments, the types of a method with parameters of all kinds and of a
static one are listed. -/
theorem parameter_types_mixed :
    ∃ body c d, parseModule mixedText = some body ∧ openClasses "a" body = [c] ∧
      moduleDeclarations "a.py" mixedText = .ok [d] ∧
      d.methods.map (·.parameterTypes) = [["int", "str", "B"], ["B"]] ∧
      List.Forall₂ MethodPlace.ListsPassed (methodPlaces c.body) d.methods := by
  have read : ((parseModule mixedText).map fun body =>
      (openClasses "a" body).map fun c : ClassPlace =>
        decide (∀ m ∈ methodPlaces c.body, m.Complete)) = some [true] := by
    decide +kernel
  have listed : ((moduleDeclarations "a.py" mixedText).map fun ds =>
      ds.map (·.methods.map (·.parameterTypes))) = .ok [[["int", "str", "B"], ["B"]]] := by
    decide +kernel
  obtain ⟨body, parsed, complete⟩ := Option.map_eq_some_iff.mp read
  obtain ⟨c, classes, complete⟩ := List.map_eq_singleton_iff.mp complete
  obtain ⟨ds, declared, single⟩ := map_eq_ok_iff.mp listed
  obtain ⟨d, rfl, types⟩ := List.map_eq_singleton_iff.mp single
  refine ⟨body, c, d, parsed, classes, declared, types, ?_⟩
  have described := parameter_types parsed moduleName_top declared
  rw [classes] at described
  obtain ⟨⟨-, methods⟩, -⟩ := List.forall₂_cons.mp described
  exact ((List.forall₂_and_left _ _).mpr ⟨of_decide_eq_true complete, methods⟩).imp
    fun m method h => h.2.passed_iff.mpr h.1

def severalText : String :=
  "class A:\n def f(self, *items: B): pass\n def g(*rest, size: int): pass\n"

/-- The type of a parameter that takes several arguments is lost, and so is the type of a first
parameter that is passed by keyword. -/
theorem types_of_passed_lost :
    ∃ body c d, parseModule severalText = some body ∧ openClasses "a" body = [c] ∧
      moduleDeclarations "a.py" severalText = .ok [d] ∧
      (methodPlaces c.body).map (annotatedTexts ·.passed) = [.ok ["B"], .ok ["int"]] ∧
      d.methods.map (·.parameterTypes) = [[], []] ∧
      ¬List.Forall₂ MethodPlace.ListsPassed (methodPlaces c.body) d.methods := by
  have read : ((parseModule severalText).map fun body =>
      (openClasses "a" body).map fun c => (methodPlaces c.body).map (annotatedTexts ·.passed)) =
        some [[.ok ["B"], .ok ["int"]]] := by
    decide +kernel
  have listed : ((moduleDeclarations "a.py" severalText).map fun ds =>
      ds.map (·.methods.map (·.parameterTypes))) = .ok [[[], []]] := by
    decide +kernel
  obtain ⟨body, parsed, passed⟩ := Option.map_eq_some_iff.mp read
  obtain ⟨c, classes, passed⟩ := List.map_eq_singleton_iff.mp passed
  obtain ⟨ds, declared, single⟩ := map_eq_ok_iff.mp listed
  obtain ⟨d, rfl, types⟩ := List.map_eq_singleton_iff.mp single
  refine ⟨body, c, d, parsed, classes, declared, passed, types, fun lists => ?_⟩
  have same : (methodPlaces c.body).map (annotatedTexts ·.passed) =
      (d.methods.map (·.parameterTypes)).map .ok := by
    rw [List.map_map, ← List.forall₂_eq_eq_eq, List.forall₂_map_left_iff,
      List.forall₂_map_right_iff]
    exact lists
  rw [passed, types] at same
  revert same
  decide

end TacticalDesign.Source
