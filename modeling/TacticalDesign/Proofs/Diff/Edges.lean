import TacticalDesign.ChangeRecord
/-!
# Edges and their texts

A comparison tells edges apart by their texts. An edge can be read back from its text when its kind
holds no colon and its origin no arrow; for other edges two texts may coincide.
-/

namespace TacticalDesign

/-- What a comparison looks at in an edge that leaves a symbol: its kind, the field or base that it
stems from, and where it leads. -/
structure EdgeFact where
  kind : String
  via : String
  target : String
  deriving DecidableEq, Repr

namespace EdgeFact

def text (e : EdgeFact) : String := e.kind ++ ":" ++ e.via ++ "->" ++ e.target

/-- The parts of the edge can be told apart in its text. -/
structure Legible (e : EdgeFact) : Prop where
  kind : ':' ∉ e.kind.toList
  via : ¬['-', '>'] <:+: e.via.toList

theorem toList_text (e : EdgeFact) :
    e.text.toList =
      e.kind.toList ++ ':' :: (e.via.toList ++ '-' :: '>' :: e.target.toList) := by
  simp [text]

theorem takeWhile_text {e : EdgeFact} (h : e.Legible) :
    e.text.toList.takeWhile (· != ':') = e.kind.toList := by
  rw [toList_text, List.takeWhile_append_of_pos]
  · simp
  · intro c hc
    have hne : c ≠ ':' := fun hcolon => h.kind (hcolon ▸ hc)
    simpa using hne

theorem append_arrow_inj {via via' target target' : List Char}
    (h : ¬['-', '>'] <:+: via) (h' : ¬['-', '>'] <:+: via')
    (e : via ++ '-' :: '>' :: target = via' ++ '-' :: '>' :: target') :
    via = via' ∧ target = target' := by
  induction via generalizing via' with
  | nil =>
      match via' with
      | [] => simpa using e
      | [_] => simp at e
      | c :: d :: rest =>
          -- The arrow of the first text would have to stand at the front of the second origin.
          obtain ⟨rfl, rfl, -⟩ : '-' = c ∧ '>' = d ∧ _ := by simpa using e
          exact absurd (List.prefix_append ['-', '>'] rest).isInfix h'
  | cons c rest ih =>
      match via' with
      | [] =>
          match rest with
          | [] => simp at e
          | d :: rest =>
              obtain ⟨rfl, rfl, -⟩ : c = '-' ∧ d = '>' ∧ _ := by simpa using e
              exact absurd (List.prefix_append ['-', '>'] rest).isInfix h
      | c' :: rest' =>
          obtain ⟨rfl, tails⟩ : c = c' ∧ _ := by simpa using e
          have inner : ∀ {l : List Char}, ¬['-', '>'] <:+: c :: l → ¬['-', '>'] <:+: l :=
            fun hc hl => hc (hl.trans (List.suffix_cons c _).isInfix)
          obtain ⟨hvia, htarget⟩ := ih (inner h) (inner h') tails
          exact ⟨by rw [hvia], htarget⟩

theorem text_injective {e e' : EdgeFact} (h : e.Legible) (h' : e'.Legible)
    (same : e.text = e'.text) : e = e' := by
  have kinds : e.kind = e'.kind := by
    rw [← String.toList_inj, ← takeWhile_text h, ← takeWhile_text h', same]
  have chars := congrArg String.toList same
  rw [toList_text, toList_text, kinds, List.append_cancel_left_eq] at chars
  obtain ⟨hvia, htarget⟩ := append_arrow_inj h.via h'.via (List.cons.inj chars).2
  obtain ⟨kind, via, target⟩ := e
  obtain ⟨kind', via', target'⟩ := e'
  rw [String.toList_inj] at hvia htarget
  simp_all

end EdgeFact

/-- An edge of a graph that can be told apart from all others by its text. -/
def Relationship.Legible (e : Relationship) : Prop :=
  EdgeFact.Legible ⟨e.kind.word, e.via, e.targetId⟩

namespace Comparison

variable (c : Comparison)

/-- The edges that leave a baseline symbol, led to where their targets are now; edges into symbols
that could not be looked at again are left out. -/
def oldFacts (id : String) : List EdgeFact :=
  ((c.old.outgoing id).filter fun e => !(e.targetId ∈ c.unverified)).map fun e =>
    ⟨e.kind.word, e.via, c.target e.targetId⟩

def newFacts (id : String) : List EdgeFact :=
  (c.new.outgoing id).map fun e => ⟨e.kind.word, e.via, e.targetId⟩

theorem oldEdges_eq (id : String) : c.oldEdges id = (c.oldFacts id).map EdgeFact.text := by
  rw [oldFacts, List.map_map]
  rfl

theorem newEdges_eq (id : String) : c.newEdges id = (c.newFacts id).map EdgeFact.text := by
  rw [newFacts, List.map_map]
  rfl

variable {c}

theorem mem_oldFacts {id : String} {fact : EdgeFact} :
    fact ∈ c.oldFacts id ↔ ∃ e ∈ c.old.relationships, e.targetId ∉ c.unverified ∧
      e.sourceId = id ∧ ⟨e.kind.word, e.via, c.target e.targetId⟩ = fact := by
  simp [oldFacts, SymbolGraph.outgoing, and_assoc]

theorem mem_newFacts {id : String} {fact : EdgeFact} :
    fact ∈ c.newFacts id ↔ ∃ e ∈ c.new.relationships, e.sourceId = id ∧
      ⟨e.kind.word, e.via, e.targetId⟩ = fact := by
  simp [newFacts, SymbolGraph.outgoing, and_assoc]

theorem legible_of_mem_oldFacts (legible : ∀ e ∈ c.old.relationships, e.Legible) (id : String)
    {fact : EdgeFact} (h : fact ∈ c.oldFacts id) : fact.Legible := by
  obtain ⟨e, he, -, -, rfl⟩ := mem_oldFacts.mp h
  exact ⟨(legible e he).kind, (legible e he).via⟩

theorem legible_of_mem_newFacts (legible : ∀ e ∈ c.new.relationships, e.Legible) (id : String)
    {fact : EdgeFact} (h : fact ∈ c.newFacts id) : fact.Legible := by
  obtain ⟨e, he, -, rfl⟩ := mem_newFacts.mp h
  exact ⟨(legible e he).kind, (legible e he).via⟩

end Comparison

theorem EdgeFact.text_mem_iff {facts : List EdgeFact} (legible : ∀ e ∈ facts, e.Legible)
    {e : EdgeFact} (h : e.Legible) : e.text ∈ facts.map EdgeFact.text ↔ e ∈ facts := by
  constructor
  · intro hm
    obtain ⟨e', he', same⟩ := List.mem_map.mp hm
    exact text_injective (legible e' he') h same ▸ he'
  · exact List.mem_map_of_mem

end TacticalDesign
