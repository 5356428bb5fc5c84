import Mathlib.Data.List.Perm.Subperm
import Mathlib.Logic.Relation
import TacticalDesign.Proofs.AntiPattern.Detection
import TacticalDesign.Proofs.Graph.Assembly
/-!
# Which aggregate roots own a symbol

A symbol is owned by those it is a part of, over any number of compositions, and compositions may
go in circles. The search for the owners comes upon every one of them once, in whatever order it
takes ids off its stack, so it ends, and what it has come upon when the stack is empty is all that
there is. A reference from an entity to an aggregate root is reported unless the root owns the
entity.
-/

namespace TacticalDesign

namespace AntiPattern

variable {graph : SymbolGraph} {roles : RoleMap} {symbol : Symbol}

/-- A composition edge leads from the owner to the part. -/
def Composes (graph : SymbolGraph) (owner part : String) : Prop :=
  ∃ e ∈ graph.relationships, e.kind = .composition ∧ e.sourceId = owner ∧ e.targetId = part

/-- One or more composition edges lead from the owner to the part. -/
def Owns (graph : SymbolGraph) : String → String → Prop :=
  Relation.TransGen (Composes graph)

theorem mem_composers {id owner : String} :
    owner ∈ composers graph id ↔ Composes graph owner id := by
  simp only [composers, mem_firstOccurrences, SymbolGraph.incomingOf, SymbolGraph.incoming,
    List.mem_map, List.mem_filter, beq_iff_eq, Composes]
  constructor
  · rintro ⟨e, ⟨⟨he, target⟩, kind⟩, source⟩
    exact ⟨e, he, kind, source, target⟩
  · rintro ⟨e, he, kind, source, target⟩
    exact ⟨e, ⟨⟨he, target⟩, kind⟩, source⟩

theorem Owns.mem_ids {owner part : String} (h : Owns graph owner part) : owner ∈ graph.ids := by
  obtain ⟨next, ⟨e, he, -, rfl, -⟩, -⟩ := Relation.TransGen.head'_iff.mp h
  exact (graph.edges_inside e he).1

/-! ## The search -/

/-- A search upwards: the ids it has come upon, and those of them it has yet to look at. -/
structure Climb where
  visited : List String
  stack : List String

namespace Climb

variable {id : String} {n : Nat} {c c' : Climb}

def start (id : String) : Climb := ⟨[id], [id]⟩

/-- A step takes any id off the stack and comes upon the new ones among its owners. -/
inductive Step (graph : SymbolGraph) : Climb → Climb → Prop where
  | take {visited stack rest fresh stack' : List String} {id : String}
      (taken : stack.Perm (id :: rest)) (distinct : fresh.Nodup)
      (mem_fresh : ∀ x, x ∈ fresh ↔ Composes graph x id ∧ x ∉ visited)
      (onto : stack'.Perm (fresh ++ rest)) :
      Step graph ⟨visited, stack⟩ ⟨visited ++ fresh, stack'⟩

inductive Run (graph : SymbolGraph) (id : String) : Nat → Climb → Prop where
  | start : Run graph id 0 (start id)
  | step {n : Nat} {c c' : Climb} : Run graph id n c → Step graph c c' → Run graph id (n + 1) c'

/-- What holds of a search after a number of steps. An id leaves the stack with the step that looks
at it, and from then on all its owners have been come upon. -/
structure Sound (graph : SymbolGraph) (id : String) (n : Nat) (c : Climb) : Prop where
  first : c.visited.head? = some id
  distinct : c.visited.Nodup
  above : ∀ x ∈ c.visited, x = id ∨ Owns graph x id
  stacked : ∀ x ∈ c.stack, x ∈ c.visited
  counted : n + c.stack.length = c.visited.length
  closed : ∀ x ∈ c.visited, x ∉ c.stack → ∀ y, Composes graph y x → y ∈ c.visited

theorem sound_start (graph : SymbolGraph) (id : String) : Sound graph id 0 (start id) where
  first := rfl
  distinct := List.nodup_singleton id
  above := fun _ hx => Or.inl (List.mem_singleton.mp hx)
  stacked := fun _ hx => hx
  counted := rfl
  closed := fun _ hx off => absurd hx off

theorem Sound.step (h : Sound graph id n c) (s : Step graph c c') :
    Sound graph id (n + 1) c' := by
  obtain @⟨visited, stack, rest, fresh, stack', top, taken, distinct, mem_fresh, onto⟩ := s
  have top_visited : top ∈ visited := h.stacked top (taken.mem_iff.mpr List.mem_cons_self)
  have rest_visited : ∀ x ∈ rest, x ∈ visited := fun x hx =>
    h.stacked x (taken.mem_iff.mpr (List.mem_cons_of_mem top hx))
  have mem_stack' : ∀ x, x ∈ stack' ↔ x ∈ fresh ∨ x ∈ rest := fun x =>
    onto.mem_iff.trans List.mem_append
  refine ⟨?_, ?_, fun x hx => ?_, fun x hx => ?_, ?_, fun x hx off y above => ?_⟩
  · rw [List.head?_append, h.first]
    rfl
  · refine List.nodup_append.mpr ⟨h.distinct, distinct, ?_⟩
    rintro x hx y hy rfl
    exact ((mem_fresh x).mp hy).2 hx
  · rcases List.mem_append.mp hx with old | new
    · exact h.above x old
    · -- A new id owns the one taken off, which is the start or owns it.
      have owns := ((mem_fresh x).mp new).1
      rcases h.above top top_visited with rfl | higher
      · exact Or.inr (Relation.TransGen.single owns)
      · exact Or.inr (Relation.TransGen.head owns higher)
  · rcases (mem_stack' x).mp hx with new | old
    · exact List.mem_append_right visited new
    · exact List.mem_append_left fresh (rest_visited x old)
  · have before := h.counted
    have sizes := taken.length_eq
    have sizes' := onto.length_eq
    simp only [List.length_cons, List.length_append] at *
    omega
  · rw [mem_stack'] at off
    push Not at off
    have old : x ∈ visited := (List.mem_append.mp hx).resolve_right off.1
    rw [List.mem_append]
    by_cases hxt : x = top
    · subst hxt
      by_cases hy : y ∈ visited
      · exact Or.inl hy
      · exact Or.inr ((mem_fresh y).mpr ⟨above, hy⟩)
    · refine Or.inl (h.closed x old (fun on => ?_) y above)
      rcases List.mem_cons.mp (taken.mem_iff.mp on) with rfl | later
      · exact hxt rfl
      · exact off.2 later

theorem Run.sound (run : Run graph id n c) : Sound graph id n c := by
  induction run with
  | start => exact sound_start graph id
  | step _ s ih => exact ih.step s

/-- A search comes upon the symbols of the graph and its start at most. -/
theorem Sound.visited_le (h : Sound graph id n c) :
    c.visited.length ≤ graph.symbols.length + 1 := by
  have among : c.visited.Subperm (id :: graph.ids) := by
    refine h.distinct.subperm fun x hx => ?_
    rcases h.above x hx with rfl | owns
    · exact List.mem_cons_self
    · exact List.mem_cons_of_mem id owns.mem_ids
  have le := among.length_le
  rw [List.length_cons, SymbolGraph.ids, List.length_map] at le
  exact le

/-- A search has at most one step for every symbol and its start. -/
theorem Run.steps_le (run : Run graph id n c) : n ≤ graph.symbols.length + 1 := by
  have counted := run.sound.counted
  have le := run.sound.visited_le
  omega

theorem step_top (graph : SymbolGraph) (visited : List String) (top : String)
    (rest : List String) :
    let fresh := (composers graph top).filter fun x => !(x ∈ visited)
    Step graph ⟨visited, top :: rest⟩ ⟨visited ++ fresh, fresh ++ rest⟩ :=
  Step.take (List.Perm.refl _) ((nodup_firstOccurrences _).filter _)
    (fun x => by simp [mem_composers]) (List.Perm.refl _)

theorem exists_step (graph : SymbolGraph) (more : c.stack ≠ []) : ∃ c', Step graph c c' := by
  obtain ⟨visited, stack⟩ := c
  obtain ⟨top, rest, rfl⟩ := List.exists_cons_of_ne_nil more
  exact ⟨_, step_top graph visited top rest⟩

/-- A search that is at its end has come upon its start and all that own it. -/
theorem Sound.mem_visited (h : Sound graph id n c) (ended : c.stack = []) (x : String) :
    x ∈ c.visited ↔ x = id ∨ Owns graph x id := by
  have closed : ∀ x ∈ c.visited, ∀ y, Composes graph y x → y ∈ c.visited := fun x hx =>
    h.closed x hx (ended ▸ List.not_mem_nil)
  have first : id ∈ c.visited := List.mem_of_head? h.first
  refine ⟨h.above x, ?_⟩
  rintro (rfl | owns)
  · exact first
  · induction owns using Relation.TransGen.head_induction_on with
    | single composes => exact closed id first _ composes
    | head composes _ ih => exact closed _ ih _ composes

/-- Climbing is a run, which ends when the steps suffice. -/
theorem run_climb {visited stack : List String} (run : Run graph id n ⟨visited, stack⟩)
    (steps : Nat) : ∃ m c, Run graph id m c ∧ climb graph visited steps stack = c.visited ∧
      (c.stack = [] ∨ m = n + steps) := by
  induction steps generalizing n visited stack with
  | zero => exact ⟨n, _, run, rfl, Or.inr rfl⟩
  | succ steps ih =>
      cases stack with
      | nil => exact ⟨n, _, run, rfl, Or.inl rfl⟩
      | cons top rest =>
          obtain ⟨m, c, run', climbed, enough⟩ := ih (run.step (step_top graph visited top rest))
          refine ⟨m, c, run', climbed, enough.imp_right fun e => ?_⟩
          omega

/-- As many steps as there are symbols, and one more, take a search to its end. -/
theorem exists_run_climb (graph : SymbolGraph) (id : String) :
    ∃ n c, Run graph id n c ∧ c.stack = [] ∧
      climb graph [id] (graph.symbols.length + 1) [id] = c.visited := by
  have begins : Run graph id 0 ⟨[id], [id]⟩ := Run.start
  obtain ⟨n, c, run, climbed, ended | all⟩ := run_climb begins (graph.symbols.length + 1)
  · exact ⟨n, c, run, ended, climbed⟩
  · have counted := run.sound.counted
    have le := run.sound.visited_le
    refine ⟨n, c, run, List.eq_nil_of_length_eq_zero ?_, climbed⟩
    omega

/-- The aggregate roots among what a search has come upon after its start, in order. -/
def roots (roles : RoleMap) (c : Climb) : List String :=
  sortTexts ((c.visited.drop 1).filter fun id => roles.hasRole id .aggregateRoot)

theorem Sound.ascend_roots (h : Sound graph id n c) (roles : RoleMap) :
    (c.roots roles).Pairwise (· < ·) := by
  have distinct : ((c.visited.drop 1).filter fun id => roles.hasRole id .aggregateRoot).Nodup :=
    (h.distinct.sublist (List.drop_sublist 1 _)).filter _
  exact ascend_mergeSort (fun x => x) (by rwa [List.map_id'])

theorem Sound.mem_roots (h : Sound graph id n c) (ended : c.stack = []) {root : String} :
    root ∈ c.roots roles ↔
      root ≠ id ∧ roles.role? root = some .aggregateRoot ∧ Owns graph root id := by
  obtain ⟨more, e⟩ := List.head?_eq_some_iff.mp h.first
  have later : root ∈ more ↔ root ≠ id ∧ root ∈ c.visited := by
    obtain ⟨fresh, -⟩ := List.nodup_cons.mp (e ▸ h.distinct)
    rw [e, List.mem_cons]
    constructor
    · exact fun hr => ⟨fun same => fresh (same ▸ hr), Or.inr hr⟩
    · exact fun hr => hr.2.resolve_left hr.1
  simp only [roots, sortTexts, List.mem_mergeSort, List.mem_filter, e, List.drop_succ_cons,
    List.drop_zero, RoleMap.hasRole, beq_iff_eq]
  rw [later, h.mem_visited ended]
  tauto

end Climb

theorem exists_run_owningRoots (graph : SymbolGraph) (roles : RoleMap) (symbol : Symbol) :
    ∃ n c, Climb.Run graph symbol.id n c ∧ c.stack = [] ∧
      owningRoots graph roles symbol = c.roots roles := by
  obtain ⟨n, c, run, ended, climbed⟩ := Climb.exists_run_climb graph symbol.id
  refine ⟨n, c, run, ended, ?_⟩
  rw [owningRoots, climbed, Climb.roots]

theorem mem_owningRoots {root : String} : root ∈ owningRoots graph roles symbol ↔
    root ≠ symbol.id ∧ roles.role? root = some .aggregateRoot ∧ Owns graph root symbol.id := by
  obtain ⟨n, c, run, ended, found⟩ := exists_run_owningRoots graph roles symbol
  rw [found, run.sound.mem_roots ended]

theorem ascend_owningRoots (graph : SymbolGraph) (roles : RoleMap) (symbol : Symbol) :
    (owningRoots graph roles symbol).Pairwise (· < ·) := by
  obtain ⟨n, c, run, -, found⟩ := exists_run_owningRoots graph roles symbol
  exact found ▸ run.sound.ascend_roots roles

/-- In whatever order a search goes, it ends with the owning roots. -/
theorem Climb.Run.roots_eq {n : Nat} {c : Climb} (run : Climb.Run graph symbol.id n c)
    (ended : c.stack = []) (roles : RoleMap) : c.roots roles = owningRoots graph roles symbol := by
  refine eq_of_ascend (fun x => x) (run.sound.ascend_roots roles)
    (ascend_owningRoots graph roles symbol) fun root => ?_
  rw [run.sound.mem_roots ended, mem_owningRoots]

/-! ## References across aggregates -/

/-- A reference leads from an entity to an aggregate root that does not own it. -/
structure Crosses (graph : SymbolGraph) (roles : RoleMap) (e : Relationship) : Prop where
  reference : e.kind = .reference
  entity : roles.role? e.sourceId = some .entity
  root : roles.role? e.targetId = some .aggregateRoot
  unowned : ¬Owns graph e.targetId e.sourceId

/-- A finding reports a reference: between which symbols it is, of which field, and which aggregate
roots own the symbol that it comes from. -/
def Reports (graph : SymbolGraph) (roles : RoleMap) (e : Relationship) (f : Finding) : Prop :=
  ∃ s ∈ graph.symbols, s.id = e.sourceId ∧
    f = crossAggregateReference.finding [e.sourceId, e.targetId]
      (["field:" ++ e.via, "target:" ++ nameOf graph e.targetId] ++
        (owningRoots graph roles s).map fun owner => "owner:" ++ nameOf graph owner)

/-- Items that each have the key of one of the groups are just the members of the groups. -/
theorem flatMap_filter_perm {α β κ : Type} [DecidableEq κ] (key : α → κ) (keyOf : β → κ)
    {groups : List α} (distinct : (groups.map key).Nodup) {items : List β}
    (inside : ∀ b ∈ items, keyOf b ∈ groups.map key) :
    (groups.flatMap fun a => items.filter fun b => keyOf b = key a).Perm items := by
  induction groups generalizing items with
  | nil =>
      have none_left : items = [] := List.eq_nil_iff_forall_not_mem.mpr fun b hb =>
        List.not_mem_nil (inside b hb)
      rw [none_left]
      exact List.Perm.refl _
  | cons a rest ih =>
      obtain ⟨fresh, distinct'⟩ := List.nodup_cons.mp (List.map_cons ▸ distinct)
      have others : (rest.flatMap fun a' => items.filter fun b => keyOf b = key a') =
          rest.flatMap fun a' =>
            (items.filter fun b => !decide (keyOf b = key a)).filter fun b => keyOf b = key a' := by
        refine List.flatMap_congr fun a' ha' => ?_
        rw [List.filter_filter]
        refine List.filter_congr fun b _ => ?_
        by_cases same : keyOf b = key a'
        · have apart : key a' ≠ key a := fun e => fresh (e ▸ List.mem_map_of_mem ha')
          simp [same, apart]
        · simp [same]
      rw [List.flatMap_cons, others]
      refine ((ih distinct' fun b hb => ?_).append_left _).trans (List.filter_append_perm _ items)
      obtain ⟨hb, apart⟩ := List.mem_filter.mp hb
      exact (List.mem_cons.mp (List.map_cons ▸ inside b hb)).resolve_left (by simpa using apart)

open Classical in
theorem exists_reported (graph : SymbolGraph) (roles : RoleMap) :
    ∃ edges, edges.Perm (graph.relationships.filter fun e => Crosses graph roles e) ∧
      List.Forall₂ (Reports graph roles) edges (crossAggregateReferences graph roles) := by
  let entities := graph.symbols.filter fun s => roles.hasRole s.id .entity
  have entity : ∀ s ∈ entities, s ∈ graph.symbols ∧ roles.role? s.id = some .entity := by
    intro s hs
    obtain ⟨inside, role⟩ := List.mem_filter.mp hs
    exact ⟨inside, beq_iff_eq.mp role⟩
  have crossing : ∀ s ∈ entities,
      ((graph.outgoingOf s.id .reference).filter fun e =>
        roles.hasRole e.targetId .aggregateRoot && !(e.targetId ∈ owningRoots graph roles s)) =
      (graph.relationships.filter fun e => Crosses graph roles e).filter
        fun e => e.sourceId = s.id := by
    intro s hs
    have role := (entity s hs).2
    simp only [SymbolGraph.outgoingOf, SymbolGraph.outgoing, List.filter_filter]
    refine List.filter_congr fun e _ => ?_
    by_cases source : e.sourceId = s.id
    · rw [Bool.eq_iff_iff]
      simp only [Bool.and_eq_true, Bool.not_eq_true', decide_eq_true_eq, decide_eq_false_iff_not,
        beq_iff_eq, RoleMap.hasRole, mem_owningRoots, source, and_true, true_and]
      constructor
      · rintro ⟨⟨root, unowned⟩, kind⟩
        refine ⟨kind, source ▸ role, root, fun owns =>
          unowned ⟨fun same => ?_, root, source ▸ owns⟩⟩
        -- An entity is no aggregate root.
        rw [same, role] at root
        cases root
      · rintro ⟨kind, -, root, unowned⟩
        exact ⟨⟨root, fun owns => unowned (source ▸ owns.2.2)⟩, kind⟩
    · simp [source]
  have distinct : (entities.map (·.id)).Nodup :=
    graph.ids_nodup.sublist ((List.filter_sublist).map _)
  refine ⟨_, flatMap_filter_perm Symbol.id Relationship.sourceId distinct fun e he => ?_, ?_⟩
  · obtain ⟨inside, crosses⟩ := List.mem_filter.mp he
    obtain ⟨s, hs, source⟩ := List.mem_map.mp (graph.edges_inside e inside).1
    have role : roles.hasRole s.id .entity = true := by
      rw [RoleMap.hasRole, source, (of_decide_eq_true crosses).entity, beq_self_eq_true]
    exact List.mem_map.mpr ⟨s, List.mem_filter.mpr ⟨hs, role⟩, source⟩
  · refine List.rel_flatMap (R := fun s s' => s = s' ∧ s ∈ entities)
      (List.forall₂_same.mpr fun s hs => ⟨rfl, hs⟩) ?_
    rintro s s' ⟨rfl, hs⟩
    simp only [crossing s hs]
    refine List.forall₂_map_right_iff.mpr (List.forall₂_same.mpr fun e he => ?_)
    have source : e.sourceId = s.id := of_decide_eq_true (List.mem_filter.mp he).2
    exact ⟨s, (entity s hs).1, source.symm, by rw [source]⟩

theorem crossings_perm (config : ScanConfig) (graph : SymbolGraph) (roles : RoleMap) :
    ((detect config graph roles).filter (·.ruleId == crossAggregateReference.ruleId)).Perm
      (crossAggregateReferences graph roles) := by
  refine (filter_detect_perm config graph roles _).trans ?_
  simp only [anemicModel, godClass, primitiveObsession, megaAggregate, crossAggregateReference,
    missingRepository, String.reduceEq, if_true, if_false, List.nil_append, List.append_nil]
  exact List.Perm.refl _

open Classical in
/-- Every search for the owners of a symbol ends, and always with the aggregate roots that own the
symbol, in order. A scan reports the references from entities to aggregate roots that do not own
them, each once. -/
theorem owners_and_crossings (graph : SymbolGraph) (roles : RoleMap) :
    (∀ symbol : Symbol,
      (∀ n c, Climb.Run graph symbol.id n c →
        n ≤ graph.symbols.length + 1 ∧ (c.stack ≠ [] → ∃ c', Climb.Step graph c c') ∧
          (c.stack = [] → c.roots roles = owningRoots graph roles symbol)) ∧
      (owningRoots graph roles symbol).Pairwise (· < ·) ∧
      ∀ id, id ∈ owningRoots graph roles symbol ↔ ∃ root ∈ graph.symbols, root.id = id ∧
        id ≠ symbol.id ∧ roles.role? id = some .aggregateRoot ∧ Owns graph id symbol.id) ∧
    ∀ config, ∃ edges,
      edges.Perm (graph.relationships.filter fun e => Crosses graph roles e) ∧
      List.Forall₂ (Reports graph roles) edges
        ((detect config graph roles).filter (·.ruleId == "AP-005")) := by
  constructor
  · intro symbol
    refine ⟨fun n c run => ⟨run.steps_le, Climb.exists_step graph, fun ended => ?_⟩,
      ascend_owningRoots graph roles symbol, fun id => ?_⟩
    · exact run.roots_eq ended roles
    · rw [mem_owningRoots]
      constructor
      · rintro ⟨apart, role, owns⟩
        obtain ⟨root, inside, e⟩ := List.mem_map.mp owns.mem_ids
        exact ⟨root, inside, e, apart, role, owns⟩
      · rintro ⟨root, -, -, apart, role, owns⟩
        exact ⟨apart, role, owns⟩
  · intro config
    obtain ⟨edges, all, reported⟩ := exists_reported graph roles
    obtain ⟨edges', reported', same⟩ :=
      List.perm_comp_forall₂ (crossings_perm config graph roles) reported.flip
    exact ⟨edges', same.trans all, reported'.flip⟩

end AntiPattern

end TacticalDesign
