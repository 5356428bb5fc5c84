import Mathlib
import TacticalDesign.Source.StatementGrammar
import TacticalDesign.Source.Walk
/-!
# Signatures in source

Whatever stands in the statements of a module was read by one of the productions of the grammar.
What each of them keeps holds of every statement: the parameters of a definition stand in the order
of their kinds.
-/

namespace TacticalDesign.Source

/-! ## The order of a signature -/

def ParameterKind.rank : ParameterKind → Nat
  | positionalOnly => 0
  | positional => 1
  | variadic => 2
  | keywordOnly => 3
  | variadicKeyword => 4

def InSignatureOrder (parameters : List Parameter) : Prop :=
  parameters.Pairwise fun p q => p.kind.rank ≤ q.kind.rank

def Statement.Orderly : Statement → Prop
  | functionDef _ _ _ parameters _ _ => InSignatureOrder parameters
  | _ => True

/-- All statements of a block, however deep they stand, have a property. -/
inductive Everywhere (P : Statement → Prop) : List Statement → Prop
  | nil : Everywhere P []
  | cons {s : Statement} {body : List Statement} (here : P s) (inside : Everywhere P s.inside)
      (behind : Everywhere P body) : Everywhere P (s :: body)

namespace Everywhere

variable {P : Statement → Prop}

theorem single {s : Statement} (here : P s) (inside : Everywhere P s.inside) : Everywhere P [s] :=
  cons here inside nil

theorem append {a b : List Statement} (ha : Everywhere P a) (hb : Everywhere P b) :
    Everywhere P (a ++ b) := by
  induction ha with
  | nil => exact hb
  | cons here inside _ _ ih => exact cons here inside ih

theorem flatten {bodies : List (List Statement)} (h : ∀ body ∈ bodies, Everywhere P body) :
    Everywhere P bodies.flatten := by
  induction bodies with
  | nil => exact nil
  | cons body rest ih =>
      obtain ⟨first, later⟩ := List.forall_mem_cons.mp h
      exact append first (ih later)

theorem of_singles {body : List Statement} (h : ∀ s ∈ body, Everywhere P [s]) :
    Everywhere P body := by
  induction body with
  | nil => exact nil
  | cons s rest ih =>
      obtain ⟨first, later⟩ := List.forall_mem_cons.mp h
      exact append first (ih later)

theorem of_mem {body : List Statement} (h : Everywhere P body) {s : Statement} (hs : s ∈ body) :
    P s := by
  induction h with
  | nil => cases hs
  | cons here _ _ _ ih =>
      rcases List.mem_cons.mp hs with rfl | hs
      · exact here
      · exact ih hs

end Everywhere

/-! ## What parsers yield -/

namespace Parser

variable {α β : Type} {P : α → Prop} {Q : β → Prop}

def Yields (P : α → Prop) (p : Parser α) : Prop :=
  ∀ ts a rest, p ts = some (a, rest) → P a

namespace Yields

theorem any (p : Parser α) : Yields (fun _ => True) p := fun _ _ _ _ => trivial

theorem pure {a : α} (h : P a) : Yields P (Pure.pure a) := by
  intro ts b rest hb
  cases hb
  exact h

theorem failure : Yields P (Alternative.failure : Parser α) := nofun

theorem bind {p : Parser β} {f : β → Parser α} (hp : Yields Q p)
    (hf : ∀ b, Q b → Yields P (f b)) : Yields P (p >>= f) := by
  intro ts a rest h
  obtain ⟨⟨b, ts'⟩, hb, ha⟩ := Option.bind_eq_some_iff.mp h
  exact hf b (hp ts b ts' hb) ts' a rest ha

theorem behind {p : Parser β} {f : β → Parser α} (hf : ∀ b, Yields P (f b)) :
    Yields P (p >>= f) := bind (any p) fun b _ => hf b

theorem orElse {p q : Parser α} (hp : Yields P p) (hq : Yields P q) : Yields P (p <|> q) := by
  intro ts a rest h
  have split : (p <|> q) ts = (p ts).or (q ts) := by
    show (p ts <|> q ts) = _
    cases p ts <;> rfl
  rw [split] at h
  rcases Option.or_eq_some_iff.mp h with h | ⟨-, h⟩
  · exact hp ts a rest h
  · exact hq ts a rest h

theorem ite {c : Prop} [Decidable c] {p q : Parser α} (hp : Yields P p) (hq : Yields P q) :
    Yields P (if c then p else q) := by
  split
  · exact hp
  · exact hq

theorem repeatUpTo {p : Parser α} (hp : Yields P p) (n : Nat) :
    Yields (fun as => ∀ a ∈ as, P a) (repeatUpTo p n) := by
  induction n with
  | zero => exact pure nofun
  | succ n ih =>
      apply orElse
      · refine bind hp fun _ ha => bind ih fun _ has => pure ?_
        exact List.forall_mem_cons.mpr ⟨ha, has⟩
      · exact pure nofun

theorem many {p : Parser α} (hp : Yields P p) : Yields (fun as => ∀ a ∈ as, P a) (many p) :=
  fun ts => repeatUpTo hp ts.length ts

theorem many1 {p : Parser α} (hp : Yields P p) : Yields (fun as => ∀ a ∈ as, P a) (many1 p) :=
  bind hp fun _ ha => bind (many hp) fun _ has => pure (List.forall_mem_cons.mpr ⟨ha, has⟩)

theorem optionally {p : Parser α} (hp : Yields P p) :
    Yields (fun o => ∀ a ∈ o, P a) (optionally p) := by
  apply orElse
  · refine bind hp fun a ha => pure ?_
    rintro b ⟨⟩
    exact ha
  · exact pure nofun

theorem between {p : Parser α} (hp : Yields P p) (opening closing : String) :
    Yields P (between opening p closing) :=
  behind fun _ => bind hp fun _ ha => behind fun _ => pure ha

theorem accept {p : Parser β} {f : β → Option α} (hf : ∀ b a, f b = some a → P a) :
    Yields P (accept p f) := by
  refine behind fun b => ?_
  split
  · rename_i a found
    exact pure (hf b a found)
  · exact failure

end Yields

end Parser

/-! ## Parameters -/

namespace Grammar

open TacticalDesign.Source.Parser

theorem kind_of_parameter? {kind : ParameterKind} {items : List ParameterItem} {p : Parameter}
    (h : p ∈ items.filterMap (·.parameter? kind)) : p.kind = kind := by
  obtain ⟨item, -, found⟩ := List.mem_filterMap.mp h
  cases item with
  | plain name typeExpr fallback =>
      cases found
      rfl
  | _ => cases found

theorem inSignatureOrder_of_kind {kind : ParameterKind} {parameters : List Parameter}
    (h : ∀ p ∈ parameters, p.kind = kind) : InSignatureOrder parameters := by
  apply List.pairwise_of_forall_mem_list
  intro p hp q hq
  rw [h p hp, h q hq]

theorem keywordParameters_ordered {items : List ParameterItem} {parameters : List Parameter}
    (h : keywordParameters items = some parameters) :
    InSignatureOrder parameters ∧
      ∀ p ∈ parameters, ParameterKind.keywordOnly.rank ≤ p.kind.rank := by
  simp only [keywordParameters] at h
  have named : ∀ p ∈ (items.takeWhile (·.isPlain)).filterMap (·.parameter? .keywordOnly),
      p.kind = .keywordOnly := fun p hp => kind_of_parameter? hp
  split at h
  · cases h
    exact ⟨inSignatureOrder_of_kind named, fun p hp => (named p hp).symm ▸ Nat.le_refl _⟩
  · rename_i name typeExpr _
    cases h
    have last : ParameterKind.keywordOnly.rank ≤ ParameterKind.variadicKeyword.rank := by decide
    constructor
    · refine List.pairwise_append.mpr
        ⟨inSignatureOrder_of_kind named, List.pairwise_singleton _ _, fun p hp q hq => ?_⟩
      rw [named p hp, List.mem_singleton.mp hq]
      exact last
    · intro p hp
      rcases List.mem_append.mp hp with hp | hp
      · rw [named p hp]
      · rw [List.mem_singleton.mp hp]
        exact last
  · cases h

def starParameters : List ParameterItem → Option (List Parameter)
  | .star (some (name, typeExpr)) :: rest =>
    (keywordParameters rest).map (.mk .variadic name typeExpr none :: ·)
  | .star none :: rest => if rest.head?.any (·.isPlain) then keywordParameters rest else none
  | rest => keywordParameters rest

theorem starParameters_ordered {items : List ParameterItem} {parameters : List Parameter}
    (h : starParameters items = some parameters) :
    InSignatureOrder parameters ∧ ∀ p ∈ parameters, ParameterKind.variadic.rank ≤ p.kind.rank := by
  have before : ParameterKind.variadic.rank ≤ ParameterKind.keywordOnly.rank := by decide
  have behind {items : List ParameterItem} {parameters : List Parameter}
      (h : keywordParameters items = some parameters) :
      InSignatureOrder parameters ∧
        ∀ p ∈ parameters, ParameterKind.variadic.rank ≤ p.kind.rank :=
    (keywordParameters_ordered h).imp_right fun all p hp => before.trans (all p hp)
  unfold starParameters at h
  split at h
  · obtain ⟨named, hnamed, rfl⟩ := Option.map_eq_some_iff.mp h
    obtain ⟨ordered, all⟩ := behind hnamed
    exact ⟨ordered.cons all, List.forall_mem_cons.mpr ⟨Nat.le_refl _, all⟩⟩
  · split at h
    · exact behind h
    · cases h
  · exact behind h

theorem starParameters_bind {α : Type} (items : List ParameterItem)
    (f : List Parameter → Option α) :
    (starParameters items >>= f) = match items with
      | .star (some (name, typeExpr)) :: rest =>
        (keywordParameters rest).map (.mk .variadic name typeExpr none :: ·) >>= f
      | .star none :: rest =>
        if rest.head?.any (·.isPlain) then keywordParameters rest >>= f else none >>= f
      | rest => keywordParameters rest >>= f := by
  unfold starParameters
  split
  · rfl
  · split <;> rfl
  · rfl

/-- The parameters before a slash, those behind it or where there is none, and what follows. -/
def slashSections (items : List ParameterItem) :
    Option (List ParameterItem × List ParameterItem × List ParameterItem) :=
  let first := items.takeWhile (·.isPlain)
  let rest := items.drop first.length
  match rest with
  | .slash :: rest =>
    if first.isEmpty then none
    else some (first, rest.takeWhile (·.isPlain), rest.dropWhile (·.isPlain))
  | _ => some ([], first, rest)

theorem arrange_eq (items : List ParameterItem) (trailing : Bool) :
    arrange items trailing = do
      let (before, after, rest) ← slashSections items
      guard (defaultsAtEnd (before ++ after))
      let last ← starParameters rest
      guard !(trailing && items.isEmpty)
      return before.filterMap (·.parameter? .positionalOnly) ++
        after.filterMap (·.parameter? .positional) ++ last := by
  simp only [arrange, slashSections, starParameters_bind]
  generalize items.drop _ = rest
  rcases rest with _ | ⟨item, rest⟩
  · rfl
  · cases item with
    | slash =>
        simp only
        split <;> rfl
    | _ => rfl

theorem arrange_ordered {items : List ParameterItem} {trailing : Bool}
    {parameters : List Parameter} (h : arrange items trailing = some parameters) :
    InSignatureOrder parameters := by
  rw [arrange_eq] at h
  obtain ⟨⟨before, after, rest⟩, -, h⟩ := Option.bind_eq_some_iff.mp h
  obtain ⟨-, -, h⟩ := Option.bind_eq_some_iff.mp h
  obtain ⟨last, hlast, h⟩ := Option.bind_eq_some_iff.mp h
  obtain ⟨-, -, h⟩ := Option.bind_eq_some_iff.mp h
  cases h
  obtain ⟨lastOrdered, behind⟩ := starParameters_ordered hlast
  have early : ∀ p ∈ before.filterMap (·.parameter? .positionalOnly), p.kind = .positionalOnly :=
    fun p hp => kind_of_parameter? hp
  have late : ∀ p ∈ after.filterMap (·.parameter? .positional), p.kind = .positional :=
    fun p hp => kind_of_parameter? hp
  have upTo : ∀ p ∈ before.filterMap (·.parameter? .positionalOnly) ++
      after.filterMap (·.parameter? .positional), p.kind.rank ≤ ParameterKind.positional.rank := by
    intro p hp
    rcases List.mem_append.mp hp with hp | hp
    · rw [early p hp]
      exact Nat.zero_le _
    · rw [late p hp]
  have between : ParameterKind.positional.rank ≤ ParameterKind.variadic.rank := by decide
  refine List.pairwise_append.mpr ⟨List.pairwise_append.mpr ⟨inSignatureOrder_of_kind early,
    inSignatureOrder_of_kind late, fun p hp q hq => ?_⟩, lastOrdered, fun p hp q hq =>
    (upTo p hp).trans (between.trans (behind q hq))⟩
  rw [early p hp]
  exact Nat.zero_le _

variable {g : Grammar}

theorem yields_parameters (isLambda : Bool) (closing : String) :
    Yields InSignatureOrder (g.parameters isLambda closing) := by
  refine Yields.behind fun closed => Yields.ite (Yields.pure .nil) (Yields.accept ?_)
  rintro ⟨items, trailing⟩ parameters found
  exact arrange_ordered found

/-! ## Statements -/

abbrev OrderlyBlock (body : List Statement) : Prop := Everywhere Statement.Orderly body

abbrev OrderlyStatement (s : Statement) : Prop := OrderlyBlock [s]

theorem orderly_plain {s : Statement} (here : s.Orderly) (bare : s.inside = []) :
    OrderlyStatement s := .single here (bare ▸ .nil)

theorem orderly_compound {kind : BlockKind} {parts : List Statement} (h : OrderlyBlock parts) :
    OrderlyStatement (.compound kind parts) := .single trivial h

theorem orderly_clause {body : List Statement} (h : OrderlyBlock body) :
    OrderlyStatement (.clause body) := .single trivial h

theorem orderly_branches {parts : List (List Statement)} {last : List Statement}
    (hparts : ∀ part ∈ parts, OrderlyBlock part) (hlast : OrderlyBlock last) :
    OrderlyBlock
      (parts.foldr (fun part rest => [.compound .branch (part ++ rest)]) last) := by
  induction parts with
  | nil => exact hlast
  | cons part parts ih =>
      obtain ⟨first, later⟩ := List.forall_mem_cons.mp hparts
      exact orderly_compound (first.append (ih later))

section Compound

variable {block : Parser (List Statement)}

theorem yields_body (h : Yields OrderlyBlock block) : Yields OrderlyBlock (body block) :=
  Yields.behind fun _ => h

theorem yields_orElse (h : Yields OrderlyBlock block) : Yields OrderlyBlock (orElse block) :=
  Yields.behind fun _ => Yields.ite (yields_body h) (Yields.pure .nil)

theorem yields_branch (h : Yields OrderlyBlock block) :
    Yields OrderlyStatement (g.branch block) := by
  refine Yields.behind fun _ => Yields.behind fun _ => Yields.bind (yields_body h) fun first hf =>
    Yields.bind (Yields.many (Yields.behind fun _ => Yields.behind fun _ => yields_body h))
      fun others ho => Yields.bind (yields_orElse h) fun last hl => Yields.pure ?_
  exact orderly_compound (hf.append (orderly_branches ho hl))

theorem yields_whileLoop (h : Yields OrderlyBlock block) :
    Yields OrderlyStatement (g.whileLoop block) :=
  Yields.behind fun _ => Yields.behind fun _ => Yields.bind (yields_body h) fun _ inside =>
    Yields.bind (yields_orElse h) fun _ last => Yields.pure (orderly_compound (inside.append last))

theorem yields_forLoop (h : Yields OrderlyBlock block) :
    Yields OrderlyStatement (g.forLoop block) :=
  Yields.behind fun _ => Yields.behind fun _ => Yields.behind fun _ => Yields.behind fun _ =>
    Yields.bind (yields_body h) fun _ inside => Yields.bind (yields_orElse h) fun _ last =>
      Yields.pure (orderly_compound (inside.append last))

theorem yields_handler (h : Yields OrderlyBlock block) (isGroup : Bool) :
    Yields OrderlyStatement (g.handler block isGroup) := by
  have clause : Yields OrderlyStatement (do return .clause (← body block)) :=
    Yields.bind (yields_body h) fun _ inside => Yields.pure (orderly_clause inside)
  have caught := Yields.behind (p := atOp ":") fun bare =>
    Yields.ite (c := (isGroup || !bare) = true)
      (Yields.behind (p := g.expression) fun _ =>
        Yields.behind (p := optionally (do keyword "as"; name)) fun _ => clause) clause
  exact Yields.behind fun _ => Yields.ite (Yields.behind fun _ => caught) caught

theorem yields_attempt (h : Yields OrderlyBlock block) :
    Yields OrderlyStatement (g.attempt block) := by
  have finale : Yields OrderlyBlock (finale block) := Yields.behind fun _ => yields_body h
  have handlers (isGroup : Bool) := Yields.many1 (yields_handler (g := g) h isGroup)
  refine Yields.behind fun _ => Yields.bind (yields_body h) fun inside hinside =>
    Yields.behind fun _ => Yields.ite ?_ ?_
  · exact Yields.bind finale fun last hlast => Yields.pure (orderly_compound (hinside.append hlast))
  · refine Yields.bind (Yields.orElse (handlers false) (handlers true)) fun handled hhandled =>
      Yields.bind (yields_orElse h) fun other hother =>
        Yields.bind (Yields.optionally finale) fun last hlast => Yields.pure ?_
    have hlast : OrderlyBlock (last.getD []) := by
      cases last with
      | none => exact .nil
      | some body => exact hlast body rfl
    exact orderly_compound
      (((hinside.append (.of_singles hhandled)).append hother).append hlast)

theorem yields_context (h : Yields OrderlyBlock block) :
    Yields OrderlyStatement (g.context block) :=
  Yields.behind fun _ => Yields.behind fun _ => Yields.bind (yields_body h) fun _ inside =>
    Yields.pure (orderly_compound inside)

theorem yields_caseClause (h : Yields OrderlyBlock block) (depth : Nat) :
    Yields OrderlyStatement (g.caseClause block depth) :=
  Yields.behind fun _ => Yields.behind fun _ => Yields.behind fun _ =>
    Yields.bind (yields_body h) fun _ inside => Yields.pure (orderly_clause inside)

theorem yields_choice (h : Yields OrderlyBlock block) (depth : Nat) :
    Yields OrderlyStatement (g.choice block depth) := by
  refine Yields.behind fun _ => Yields.behind fun _ => Yields.behind fun _ => Yields.behind fun _ =>
    Yields.behind fun _ => Yields.behind fun _ =>
    Yields.bind (Yields.many1 (yields_caseClause h depth)) fun _ cases => Yields.behind fun _ =>
    Yields.pure ?_
  exact orderly_compound (.of_singles cases)

theorem yields_classDef (h : Yields OrderlyBlock block) (decorators : List Expr) :
    Yields OrderlyStatement (g.classDef block decorators) := by
  refine Yields.behind fun _ => Yields.behind fun name => Yields.behind fun _ => ?_
  have declared (bases : List Expr) (keywords : List Keyword) : Yields OrderlyStatement
      (do return .classDef name decorators bases keywords (← body block)) :=
    Yields.bind (yields_body h) fun _ inside => Yields.pure (Everywhere.single trivial inside)
  exact Yields.ite (Yields.behind fun _ => declared _ _) (Yields.behind fun _ => declared _ _)

theorem yields_functionDef (h : Yields OrderlyBlock block) (isAsync : Bool)
    (decorators : List Expr) :
    Yields OrderlyStatement (g.functionDef block isAsync decorators) := by
  refine Yields.behind fun _ => Yields.behind fun name =>
    Yields.bind (Yields.between (yields_parameters false ")") "(" ")") fun parameters ordered =>
      Yields.behind fun _ => ?_
  have declared (returns : Option Expr) : Yields OrderlyStatement
      (do return .functionDef isAsync name decorators parameters returns (← body block)) :=
    Yields.bind (yields_body h) fun _ inside => Yields.pure (Everywhere.single ordered inside)
  exact Yields.ite (Yields.behind fun _ => declared _) (Yields.behind fun _ => declared _)

theorem yields_decorated (h : Yields OrderlyBlock block) :
    Yields OrderlyStatement (g.decorated block) :=
  Yields.behind fun _ => Yields.behind fun _ => Yields.ite (yields_classDef h _)
    (Yields.behind fun _ => yields_functionDef h _ _)

theorem yields_asyncStatement (h : Yields OrderlyBlock block) :
    Yields OrderlyStatement (g.asyncStatement block) :=
  Yields.behind fun _ => Yields.behind fun _ => Yields.ite (yields_functionDef h _ _)
    (Yields.behind fun _ => Yields.ite (yields_context h) (yields_forLoop h))

theorem yields_assignmentOrExpression : Yields OrderlyStatement g.assignmentOrExpression := by
  refine Yields.behind fun _ => Yields.behind fun first => Yields.behind fun _ => Yields.ite ?_ ?_
  · exact Yields.behind fun _ => Yields.behind fun _ => Yields.behind fun _ =>
      Yields.ite (Yields.behind fun _ => Yields.pure (orderly_plain trivial rfl))
        (Yields.pure (orderly_plain trivial rfl))
  · refine Yields.behind fun values => ?_
    cases values with
    | cons value values => exact Yields.behind fun _ => Yields.pure (orderly_plain trivial rfl)
    | nil =>
        refine Yields.orElse ?_ (Yields.pure (orderly_plain trivial rfl))
        exact Yields.behind fun _ => Yields.behind fun _ => Yields.behind fun _ =>
          Yields.pure (orderly_plain trivial rfl)

theorem yields_simpleStatement : Yields OrderlyStatement g.simpleStatement := by
  refine Yields.behind fun _ => Yields.ite (Yields.pure (orderly_plain trivial rfl)) ?_
  refine Yields.behind fun word => ?_
  cases word with
  | some p => exact Yields.behind fun _ => Yields.pure (orderly_plain trivial rfl)
  | none => exact yields_assignmentOrExpression

theorem yields_simpleStatements : Yields OrderlyBlock g.simpleStatements :=
  Yields.bind yields_simpleStatement fun _ first =>
    Yields.bind (Yields.many (Yields.behind fun _ => yields_simpleStatement)) fun _ later =>
      Yields.behind fun _ => Yields.behind fun _ =>
        Yields.pure (Everywhere.append first (.of_singles later))

theorem yields_compoundStatements (h : Yields OrderlyBlock block) :
    ∀ entry ∈ g.compoundStatements block, Yields OrderlyStatement entry.2 := by
  simp only [compoundStatements, List.forall_mem_cons]
  exact ⟨yields_branch h, yields_whileLoop h, yields_forLoop h, yields_attempt h, yields_context h,
    yields_classDef h [], yields_functionDef h false [], yields_asyncStatement h, nofun⟩

theorem yields_statement (h : Yields OrderlyBlock block) (depth : Nat) :
    Yields OrderlyBlock (g.statement block depth) := by
  have one {p : Parser Statement} (hp : Yields OrderlyStatement p) :
      Yields OrderlyBlock (do return [← p]) := Yields.bind hp fun _ found => Yields.pure found
  intro ts body rest found
  unfold statement at found
  split at found
  · rename_i word following
    cases entry : (g.compoundStatements block).lookup word with
    | none =>
        rw [entry] at found
        exact yields_simpleStatements _ _ _ found
    | some p =>
        rw [entry] at found
        obtain ⟨before, behind, entries, -⟩ := List.lookup_eq_some_iff.mp entry
        have listed : (word, p) ∈ g.compoundStatements block :=
          entries ▸ List.mem_append_right before List.mem_cons_self
        exact one (yields_compoundStatements h _ listed) _ _ _ found
  · exact one (yields_decorated h) _ _ _ found
  · exact Yields.orElse (one (yields_choice h depth)) yields_simpleStatements _ _ _ found
  · exact yields_simpleStatements _ _ _ found

theorem yields_statements (h : Yields OrderlyBlock block) (depth : Nat) :
    Yields OrderlyBlock (g.statements block depth) :=
  Yields.bind (Yields.many (yields_statement h depth)) fun _ all => Yields.pure (.flatten all)

end Compound

/-- Blocks nested up to a depth are orderly: each unit of fuel opens one more block. -/
theorem yields_block (depth fuel : Nat) : Yields OrderlyBlock (g.block depth fuel) := by
  induction fuel with
  | zero => exact Yields.failure
  | succ fuel ih =>
      refine Yields.behind fun _ => Yields.ite ?_ yields_simpleStatements
      exact Yields.behind fun _ => Yields.bind (yields_statements ih depth) fun _ inside =>
        Yields.behind fun _ => Yields.pure inside

end Grammar

theorem orderly_of_parseModule {text : String} {body : List Statement}
    (h : parseModule text = some body) : Everywhere Statement.Orderly body := by
  obtain ⟨ts, -, h⟩ := Option.bind_eq_some_iff.mp h
  split at h
  · rename_i found
    cases h
    exact Grammar.yields_statements (Grammar.yields_block _ _) _ _ _ _ found
  · cases h

end TacticalDesign.Source
