import TacticalDesign.Proofs.Classification.Evidence
import TacticalDesign.Proofs.Registry.Layers
/-!
# Identity keeps roles away

A symbol with identity is no value, no service and no event, whatever stands around it: the rules
for these roles ask for no identity, two of them apart, which go by the names of the base types.
These names are read behind the last dot and before the first square bracket. The dot is looked for
first, so one that stands in type arguments counts as well.
-/

namespace TacticalDesign

/-! ## Names of base types -/

namespace BaseType

def opens (c : Char) : Bool := c == '[' || c == '<'

def closes (c : Char) : Bool := c == ']' || c == '>'

/-- How many brackets are open behind a character. -/
def depthBehind (depth : Nat) (c : Char) : Nat :=
  if opens c then depth + 1 else if closes c then depth - 1 else depth

/-- Puts a square bracket in the place of each character of type arguments, brackets included. -/
def blot : Nat → List Char → List Char
  | _, [] => []
  | depth, c :: rest =>
    (if opens c || depth != 0 then '[' else c) :: blot (depthBehind depth c) rest

/-- Whether type arguments stand in square brackets, and no dot stands in them. -/
def isPlain : Nat → List Char → Bool
  | _, [] => true
  | depth, c :: rest =>
    c != '<' && (c != '.' || depth == 0) && isPlain (depthBehind depth c) rest

/-- What stands behind the last dot and before the first square bracket. -/
def readName (base : List Char) : List Char := Text.beforeFirst '[' (Text.afterLast '.' base)

/-- The name of a base without qualifier and type arguments, which may have dots of their own. -/
def name (base : List Char) : List Char := readName (blot 0 base)

variable {depth : Nat} {base : List Char}

theorem dot_mem_blot (plain : isPlain depth base = true) : '.' ∈ blot depth base ↔ '.' ∈ base := by
  induction base generalizing depth with
  | nil => rfl
  | cons c rest ih =>
      simp only [isPlain, Bool.and_eq_true, Bool.or_eq_true, bne_iff_ne, beq_iff_eq] at plain
      obtain ⟨⟨-, outside⟩, plain⟩ := plain
      rw [blot, List.mem_cons, List.mem_cons, ih plain]
      refine or_congr_left ⟨fun dot => ?_, fun dot => ?_⟩
      · split at dot
        · cases dot
        · exact dot
      · subst dot
        simp_all [opens]

theorem afterLast_blot (plain : isPlain depth base = true) (dotted : '.' ∈ base) :
    Text.afterLast '.' (blot depth base) = blot 0 (Text.afterLast '.' base) := by
  induction base generalizing depth with
  | nil => cases dotted
  | cons c rest ih =>
      simp only [isPlain, Bool.and_eq_true, Bool.or_eq_true, bne_iff_ne, beq_iff_eq] at plain
      obtain ⟨⟨-, outside⟩, plain⟩ := plain
      rw [blot, Text.afterLast_cons, Text.afterLast_cons]
      by_cases later : '.' ∈ rest
      · rw [if_pos later, if_pos ((dot_mem_blot plain).mpr later), ih plain later]
      · -- This is the last dot, and no bracket is open before it.
        obtain rfl : '.' = c := (List.mem_cons.mp dotted).resolve_right later
        obtain rfl : depth = 0 := outside.resolve_left (by simp)
        rw [if_neg later, if_neg (mt (dot_mem_blot plain).mp later), if_pos rfl, if_pos (by rfl)]
        rfl

theorem square_of_plain (plain : isPlain depth base = true) : '<' ∉ base := by
  induction base generalizing depth with
  | nil => exact List.not_mem_nil
  | cons c rest ih =>
      simp only [isPlain, Bool.and_eq_true, bne_iff_ne] at plain
      obtain ⟨⟨square, -⟩, plain⟩ := plain
      exact List.not_mem_cons_of_ne_of_not_mem (Ne.symm square) (ih plain)

theorem beforeFirst_blot (square : '<' ∉ base) :
    Text.beforeFirst '[' (blot 0 base) = Text.beforeFirst '[' base := by
  induction base with
  | nil => rfl
  | cons c rest ih =>
      obtain ⟨here, later⟩ := not_or.mp (mt List.mem_cons.mpr square)
      by_cases bracket : c = '['
      · subst bracket
        rfl
      · have outside : opens c = false := by
          simp [opens, bracket, Ne.symm here]
        have level : depthBehind 0 c = 0 := by
          simp [depthBehind, outside]
        have kept : blot 0 (c :: rest) = c :: blot 0 rest := by
          simp [blot, outside, level]
        rw [kept, Text.beforeFirst, Text.beforeFirst, List.takeWhile_cons_of_pos (by simpa),
          List.takeWhile_cons_of_pos (by simpa)]
        exact congrArg _ (ih later)

theorem name_eq_readName (plain : isPlain 0 base = true) : name base = readName base := by
  have last : Text.afterLast '.' (blot 0 base) = blot 0 (Text.afterLast '.' base) := by
    by_cases dotted : '.' ∈ base
    · exact afterLast_blot plain dotted
    · rw [Text.afterLast_of_not_mem dotted,
        Text.afterLast_of_not_mem (mt (dot_mem_blot plain).mp dotted)]
  have square : '<' ∉ Text.afterLast '.' base :=
    fun within => square_of_plain plain (Text.mem_of_mem_afterLast within)
  rw [name, readName, last, beforeFirst_blot square, readName]

def isIdentityless (name : List Char) : Bool :=
  ["Value", "ValueObject", "Event"].any fun suffix => Text.endsWith name suffix.toList

end BaseType

/-! ## Rules under identity -/

def Role.identityless : List Role := [.valueObject, .domainService, .domainEvent]

namespace RuleCatalog

variable {s : Symbol} {g : SymbolGraph}

/-- No base that is read as a value or as an event counts as one for the rules. -/
theorem baseEndsWith_of_unread {suffixes : List String}
    (within : suffixes ⊆ ["Value", "ValueObject", "Event"])
    (unread : ∀ base ∈ s.bases, BaseType.isIdentityless (BaseType.readName base.toList) = false) :
    baseEndsWith s suffixes = false := by
  refine List.any_eq_false.mpr fun base hb => ?_
  have others := List.any_eq_false.mp (unread base hb)
  rw [List.any_eq_true]
  rintro ⟨suffix, hs, ends⟩
  exact others suffix (within hs) ends

theorem score_of_identity (identity : s.hasIdentity = true)
    (unread : ∀ base ∈ s.bases, BaseType.isIdentityless (BaseType.readName base.toList) = false) :
    ∀ r ∈ rules, r.role ∈ Role.identityless → r.score s g = .ok 0 := by
  have values : extendsValueBase s g = false := baseEndsWith_of_unread (by decide) unread
  have events : extendsEventBase s g = false := baseEndsWith_of_unread (by decide) unread
  have stateful : s.isStateless = false := by simp [Symbol.isStateless, identity]
  have unnamed : eventName s g = 0 := by simp [eventName, identity]
  have share := isShare_eventName s g
  simp only [rules, List.forall_mem_cons, role_flag, role_graded, score_flag,
    score_graded _ _ _ _ share, Role.identityless]
  -- Of the rules for these roles all but those of base types look at identity themselves.
  simp [identity, values, events, stateful, unnamed, immutableWithValueEquality,
    immutableWithoutIdentity, valueLikeName, spansAggregates, serviceName, eventTimestamp,
    noIdentityNoState, identityOrState]

end RuleCatalog

/-! ## Roles of symbols with identity -/

namespace Classification

variable {registry : RuleRegistry} {config : ScanConfig} {g : SymbolGraph} {s : Symbol}

/-- Under the standard rules, customized or not, a symbol with identity is neither taken for a
value, a service or an event nor nearly so, unless it has a base type for values or events by name,
or by what is read as the name where type arguments are not plain. -/
theorem roles_of_identity (customized : registry.Customized) (identity : s.hasIdentity = true)
    (unnamed : ∀ base ∈ s.bases, BaseType.isIdentityless (BaseType.name base.toList) = false)
    (unmistaken : ∀ base ∈ s.bases, BaseType.isPlain 0 base.toList = true ∨
      BaseType.isIdentityless (BaseType.readName base.toList) = false)
    {c : Classification} (classified : ofSymbol registry config g s = .ok c) :
    c.role ∉ Role.identityless ∧ ∀ a ∈ c.alternates, a.role ∉ Role.identityless := by
  have unread : ∀ base ∈ s.bases,
      BaseType.isIdentityless (BaseType.readName base.toList) = false := by
    intro base hb
    rcases unmistaken base hb with plain | other
    · rw [← BaseType.name_eq_readName plain]
      exact unnamed base hb
    · exact other
  have kept_out : ∀ role ∈ c.role :: c.alternates.map (·.role), role ∉ Role.identityless := by
    intro role hrole without
    obtain ⟨r, hr, rfl, x, scored, pos⟩ := scored_of_ofSymbol classified role hrole
    obtain ⟨q, hq, reweighs⟩ := customized.ofCatalog.rules r hr
    rw [reweighs.role] at without
    rw [reweighs.score_eq, RuleCatalog.score_of_identity identity unread q hq without] at scored
    cases scored
    exact absurd pos (by decide)
  exact ⟨kept_out c.role List.mem_cons_self, fun a ha =>
    kept_out a.role (List.mem_cons_of_mem c.role (List.mem_map_of_mem ha))⟩

private def orderWith (bases : List String) : Symbol :=
  { id := "shop.java::Order", name := "Order", qualifiedName := "Order", nameSpace := "",
    kind := .classType, originPath := "shop.java", language := "java",
    fields := [{ name := "id", declaredType := some "int" }], bases }

private def shopWith (bases : List String) : SymbolGraph :=
  ⟨[orderWith bases], [], by simp, by simp⟩

/-- Type arguments with dots, or with arguments of their own, and a base that is no value. -/
theorem roles_of_identity_order :
    let bases := ["shop.Handler[shop.PaidEvent]", "Handler[PaidEvent[int]]", "shop.Entity[int]"]
    (orderWith bases).hasIdentity = true ∧
      ∃ c, ofSymbol .standard {} (shopWith bases) (orderWith bases) = .ok c ∧
        c.role ∉ Role.identityless := by
  intro bases
  have identity : (orderWith bases).hasIdentity = true := by decide +kernel
  obtain ⟨c, classified, -⟩ :=
    ofSymbol_ok RuleRegistry.covers_standard {} (shopWith bases) (orderWith bases)
  refine ⟨identity, c, classified, ?_⟩
  exact (roles_of_identity .standard identity (by decide +kernel) (by decide +kernel) classified).1

/-! ## A base that is mistaken -/

private def eventBase : Rule :=
  RuleCatalog.flag "EV-003" .domainEvent 3.0 "extends an event base type"
    RuleCatalog.extendsEventBase

private def eventHandler : Symbol := orderWith ["Handler[shop.PaidEvent[int]]"]

private def handlerShop : SymbolGraph := shopWith ["Handler[shop.PaidEvent[int]]"]

private def fired (r : Rule) : Bool := r.id ∈ ["EV-003", "FB-001"]

private def voteOf (r : Rule) : RoleVote Float :=
  ⟨r.role, Vote.round (Confidence.total [(r.ballot eventHandler handlerShop).vote])⟩

theorem fired_eventHandler : RuleRegistry.standard.rules.filter (·.fires eventHandler handlerShop) =
    [RuleCatalog.entityFallback, eventBase] := by
  have fires : ∀ r ∈ RuleCatalog.rules, r.fires eventHandler handlerShop = fired r := by
    decide +kernel
  have perm : (RuleRegistry.standard.rules.filter fired).Perm
      [RuleCatalog.entityFallback, eventBase] :=
    ((List.mergeSort_perm RuleCatalog.rules RuleRegistry.ruleLe).filter fired).trans
      (.swap RuleCatalog.entityFallback eventBase [])
  have sorted : (RuleRegistry.standard.rules.filter fired).Pairwise
      fun a b => RuleRegistry.ruleLe a b = true :=
    (List.pairwise_mergeSort RuleRegistry.ruleLe_trans RuleRegistry.ruleLe_total _).filter fired
  have distinct : ((RuleRegistry.standard.rules.filter fired).map (·.id)).Nodup :=
    (perm.map (·.id)).nodup_iff.mpr (by decide)
  calc RuleRegistry.standard.rules.filter (·.fires eventHandler handlerShop)
    _ = RuleRegistry.standard.rules.filter fired :=
        List.filter_congr fun r hr => fires r (List.mem_mergeSort.mp hr)
    _ = (RuleRegistry.standard.rules.filter fired).mergeSort RuleRegistry.ruleLe :=
        (List.mergeSort_of_pairwise sorted).symm
    _ = [RuleCatalog.entityFallback, eventBase].mergeSort RuleRegistry.ruleLe :=
        RuleRegistry.mergeSort_eq_of_perm perm distinct
    _ = [RuleCatalog.entityFallback, eventBase] := List.mergeSort_of_pairwise (by decide)

/-- Type arguments that have a dot and arguments of their own are read as the base. -/
theorem event_by_type_argument :
    eventHandler.hasIdentity = true ∧
      (∀ base ∈ eventHandler.bases, BaseType.isIdentityless (BaseType.name base.toList) = false) ∧
      ∃ c, ofSymbol .standard {} handlerShop eventHandler = .ok c ∧ c.role = .domainEvent := by
  have counted : Ballot.cast eventHandler handlerShop RuleRegistry.standard.rules =
      .ok ([RuleCatalog.entityFallback, eventBase].map (·.ballot eventHandler handlerShop)) := by
    have scores := fun r hr => RuleRegistry.covers_standard.scores r hr eventHandler handlerShop
    rw [Ballot.cast_eq scores, fired_eventHandler]
  have votes : Ballot.count
      ([RuleCatalog.entityFallback, eventBase].map (·.ballot eventHandler handlerShop)) =
        [voteOf RuleCatalog.entityFallback, voteOf eventBase] := rfl
  -- The base type counts for twelve times as much as the fallback.
  have less : RoleVote.precedes (voteOf RuleCatalog.entityFallback) (voteOf eventBase) = false := by
    decide +kernel
  have ranked := RoleVote.rank_pair (voteOf RuleCatalog.entityFallback) (voteOf eventBase)
  rw [less, if_neg Bool.false_ne_true] at ranked
  obtain ⟨v, judged, role⟩ : ∃ v : Verdict Float, Verdict.ofBallots {}
      ([RuleCatalog.entityFallback, eventBase].map (·.ballot eventHandler handlerShop)) = some v ∧
        v.role = .domainEvent := by
    simp only [Verdict.ofBallots, votes, ranked]
    exact ⟨_, rfl, rfl⟩
  refine ⟨by decide +kernel, by decide +kernel, ofVerdict eventHandler.id v, ?_, role⟩
  simp only [ofSymbol, Verdict.of, counted, judged]

end Classification

end TacticalDesign
