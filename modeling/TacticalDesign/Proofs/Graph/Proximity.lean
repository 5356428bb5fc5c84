import Mathlib.Data.List.TakeWhile
import TacticalDesign.Proofs.Graph.Shrinking
/-!
# Names prefer their own file

Of the symbols that a simple name may mean, those from the file in which the name stands come first.
A symbol whose qualified name it is comes before all of these, from whatever file it is.
-/

namespace TacticalDesign

theorem firstPassing_of_first {α : Type} (test : α → Bool) {tests : List (α → Bool)}
    {items : List α} {a : α} (ha : a ∈ items) (passes : test a = true) :
    ∃ b ∈ items, test b = true ∧ firstPassing (test :: tests) items = some b := by
  cases found : items.find? test with
  | none => exact absurd passes (List.find?_eq_none.mp found a ha)
  | some b =>
      refine ⟨b, List.mem_of_find?_eq_some found, List.find?_some found, ?_⟩
      rw [firstPassing_cons, found, Option.some_or]

namespace SymbolGraph

variable {g : SymbolGraph} {near t : Symbol} {name : String}

theorem simpleName_of_undotted (undotted : '.' ∉ name.toList) : simpleName name = name := by
  have whole : name.toList.reverse.takeWhile (· ≠ '.') = name.toList.reverse := by
    apply List.takeWhile_eq_self_iff.mpr
    intro c hc
    have other : c ≠ '.' := fun dot => undotted (dot ▸ List.mem_reverse.mp hc)
    simpa using other
  rw [simpleName, Text.afterLast, whole, List.reverse_reverse, String.ofList_toList]

/-- The symbols whose qualified name a name is, in the order of their ids. -/
def namesakes (g : SymbolGraph) (name : String) : List Symbol :=
  g.symbols.filter (·.qualifiedName == name)

def Beside (g : SymbolGraph) (near : Symbol) (id : String) : Prop :=
  ∃ s ∈ g.symbols, s.id = id ∧ s.originPath = near.originPath

/-- The first of the namesakes, if there is one, comes from the same file as a symbol. -/
def NamesakesBeside (g : SymbolGraph) (near : Symbol) (name : String) : Prop :=
  ∀ s, (g.namesakes name).head? = some s → s.originPath = near.originPath

/-! ## What a name means -/

theorem lookup_of_namesake {s : Symbol} (first : (g.namesakes name).head? = some s)
    (near : Option Symbol) : g.lookup name near = some s.id := by
  have found : g.symbols.find? (·.qualifiedName == name) = some s := by
    rwa [namesakes, List.head?_filter] at first
  rw [lookup, lookupSymbol, found]
  rfl

theorem lookup_without_namesakes (without : (g.namesakes name).head? = none) :
    g.lookup name (some near) =
      (firstPassing (nearTests (·.name == simpleName name) near) g.symbols).map (·.id) := by
  have missed : g.symbols.find? (·.qualifiedName == name) = none := by
    rwa [namesakes, List.head?_filter] at without
  rw [lookup, lookupSymbol_eq, firstPassing_cons, missed, Option.none_or]

theorem beside_of_nearTests (candidate : Symbol → Bool) (ht : t ∈ g.symbols)
    (passes : candidate t = true) (here : t.originPath = near.originPath) :
    ∃ s, firstPassing (nearTests candidate near) g.symbols = some s ∧ g.Beside near s.id := by
  obtain ⟨s, hs, both, found⟩ := firstPassing_of_first
    (fun a => candidate a && a.originPath == near.originPath) ht (by simp [passes, here])
  refine ⟨s, found, s, hs, rfl, ?_⟩
  exact eq_of_beq (Bool.and_eq_true_iff.mp both).2

theorem beside_of_lookup (undotted : '.' ∉ name.toList) (ht : t ∈ g.symbols)
    (named : t.name = name) (here : t.originPath = near.originPath)
    (namesakes : g.NamesakesBeside near name) :
    ∃ id, g.lookup name (some near) = some id ∧ g.Beside near id := by
  cases first : (g.namesakes name).head? with
  | some s =>
      have hs : s ∈ g.symbols := List.mem_of_mem_filter (List.mem_of_head? first)
      exact ⟨s.id, lookup_of_namesake first _, s, hs, rfl, namesakes s first⟩
  | none =>
      have candidate : (t.name == simpleName name) = true := by
        rw [simpleName_of_undotted undotted, named, beq_self_eq_true]
      obtain ⟨s, found, beside⟩ :=
        beside_of_nearTests (·.name == simpleName name) ht candidate here
      refine ⟨s.id, ?_, beside⟩
      rw [lookup_without_namesakes first, found]
      rfl

/-! ## What fields lead to -/

/-- A field whose type mentions one name leads to what the name means, unless that is the symbol
itself. -/
theorem targets_of_typeEdges {field : FieldDeclaration} {id : String}
    (mentions : (TypeReference.of field.declaredType).names = [name])
    (found : g.lookup name (some near) = some id) :
    (g.typeEdges near field).map (·.targetId) = [id].filter (· ≠ near.id) := by
  have resolved : g.resolveType near field.declaredType = [id].filter (· ≠ near.id) := by
    rw [resolveType, mentions, List.filterMap_cons, found, Option.filter_some]
    by_cases self : id = near.id <;> simp [self, firstOccurrences]
  rw [typeEdges, List.map_map, resolved]
  apply List.map_id

/-- A field that refers to a symbol by identity leads to one of that name from the same file. -/
theorem fieldEdges_of_identity {field : FieldDeclaration} (ht : t ∈ g.symbols)
    (here : t.originPath = near.originPath) (other : t.id ≠ near.id)
    (refers : near.identityReferenceTarget field = some (normalizeName t.name)) :
    ∃ e, g.fieldEdges near field = [e] ∧ e.kind = .identity ∧ g.Beside near e.targetId := by
  have candidate : (normalizeName t.name == normalizeName t.name && t.id != near.id) = true := by
    simpa using other
  obtain ⟨s, found, beside⟩ := beside_of_nearTests
    (fun a => normalizeName a.name == normalizeName t.name && a.id != near.id) ht candidate here
  have target : g.symbolOfNormalName (normalizeName t.name) near = some s := by
    rw [symbolOfNormalName_eq, found]
  have edge : g.identityEdge near field =
      some { sourceId := near.id
             targetId := s.id
             kind := .identity
             cardinality := (TypeReference.of field.declaredType).cardinality
             via := field.name } := by
    rw [identityEdge, refers, Option.bind_some, target, Option.map_some]
  rw [fieldEdges, edge]
  exact ⟨_, rfl, rfl, beside⟩

/-- What a name means from the point of view of a symbol that has one of that name beside it. -/
structure Proximate (g : SymbolGraph) (near : Symbol) (name : String) : Prop where
  /-- A symbol from the same file, also for fields of that type, unless the first namesake is
  elsewhere. -/
  beside : g.NamesakesBeside near name →
    ∃ id, g.lookup name (some near) = some id ∧ g.Beside near id ∧
      ∀ field : FieldDeclaration, (TypeReference.of field.declaredType).names = [name] →
        (g.typeEdges near field).map (·.targetId) = [id].filter (· ≠ near.id)
  /-- The first namesake, where all of them are elsewhere. -/
  elsewhere : (∀ s ∈ g.namesakes name, s.originPath ≠ near.originPath) →
    ∀ s, (g.namesakes name).head? = some s → g.lookup name (some near) = some s.id
  /-- A reference by identity keeps to the file in any case. -/
  identity : ∀ t ∈ g.symbols, t.name = name → t.originPath = near.originPath → t.id ≠ near.id →
    ∀ field, near.identityReferenceTarget field = some (normalizeName name) →
      ∃ e, g.fieldEdges near field = [e] ∧ e.kind = .identity ∧ g.Beside near e.targetId

/-- A name keeps to the file in which it stands, where it is not the qualified name of a symbol. -/
theorem proximate_of_beside (g : SymbolGraph) (near : Symbol) (undotted : '.' ∉ name.toList)
    (ht : t ∈ g.symbols) (named : t.name = name) (here : t.originPath = near.originPath) :
    g.Proximate near name where
  beside := by
    intro namesakes
    obtain ⟨id, found, beside⟩ := beside_of_lookup undotted ht named here namesakes
    exact ⟨id, found, beside, fun field mentions => targets_of_typeEdges mentions found⟩
  elsewhere := fun _ s first => lookup_of_namesake first _
  identity := by
    rintro t ht rfl here other field refers
    exact fieldEdges_of_identity ht here other refers

/-! ## Namesakes elsewhere -/

def classOf (originPath nameSpace name qualifiedName : String) : Symbol :=
  { id := symbolId originPath qualifiedName, name, qualifiedName, nameSpace, kind := .classType,
    originPath, language := "java" }

def shopCart : Symbol := classOf "b.java" "shop" "Cart" "shop.Cart"

def shopOrder : Symbol := classOf "b.java" "shop" "Order" "shop.Order"

/-- A cart and an order in `b.java`, and another two in `a.java`, of which the order is in no
namespace. -/
def shop : SymbolGraph where
  symbols := [classOf "a.java" "" "Order" "Order", classOf "a.java" "old" "Cart" "old.Cart",
    shopCart, shopOrder]
  relationships := []
  symbols_ascend := by decide
  edges_inside := by simp

/-- The cart beside the order of the shop is preferred to the other one, which has a lower id. -/
theorem proximate_of_beside_cart :
    shop.Proximate shopOrder "Cart" ∧ shop.lookup "Cart" (some shopOrder) = some shopCart.id := by
  have cart : shopCart ∈ shop.symbols := by decide
  have undotted : '.' ∉ "Cart".toList := by decide
  refine ⟨proximate_of_beside shop shopOrder undotted cart rfl rfl, ?_⟩
  decide

/-- `Order` is the qualified name of a class of `a.java`, so this is what it means in `b.java`. -/
theorem namesake_leaves_file :
    ¬∀ (g : SymbolGraph) (near : Symbol) (name : String), near ∈ g.symbols → '.' ∉ name.toList →
      (∃ t ∈ g.symbols, t.name = name ∧ t.originPath = near.originPath) →
        ∃ id, g.lookup name (some near) = some id ∧ g.Beside near id := by
  intro claim
  obtain ⟨id, found, s, hs, same, here⟩ := claim shop shopCart "Order" (by decide) (by decide)
    ⟨shopOrder, by decide, rfl, rfl⟩
  have wins : shop.lookup "Order" (some shopCart) = some "a.java::Order" := by decide
  obtain rfl : "a.java::Order" = id := Option.some.inj (wins.symm.trans found)
  revert s
  decide

end SymbolGraph

end TacticalDesign
