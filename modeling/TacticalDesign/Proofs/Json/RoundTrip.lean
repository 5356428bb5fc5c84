import TacticalDesign.Proofs.Json.Reading
/-!
# Documents are read back

The reader takes what the writer makes of a value for that value, except that each float is what its
text is read as, and that the members of an object come in the order of their keys.
-/

namespace TacticalDesign.Json

/-! ## What is read back -/

def sorted (members : List (String × Json)) : List (String × Json) :=
  members.mergeSort fun a b => decide (a.1 ≤ b.1)

mutual

def reread : Json → Json
  | null => null
  | bool b => bool b
  | number n => number n.reread
  | string s => string s
  | array items => array (rereadItems items)
  | object members => object (gather (sorted (rereadMembers members)))

def rereadItems : List Json → List Json
  | [] => []
  | v :: rest => reread v :: rereadItems rest

def rereadMembers : List (String × Json) → List (String × Json)
  | [] => []
  | (k, v) :: rest => (k, reread v) :: rereadMembers rest

end

theorem rereadItems_eq_map (items : List Json) : rereadItems items = items.map reread := by
  induction items with
  | nil => rfl
  | cons v rest ih => rw [rereadItems, ih, List.map_cons]

theorem rereadMembers_eq_map (members : List (String × Json)) :
    rereadMembers members = members.map fun m => (m.1, reread m.2) := by
  induction members with
  | nil => rfl
  | cons m rest ih => rw [rereadMembers, ih, List.map_cons]

inductive IsReadable : Json → Prop
  | null : IsReadable null
  | bool (b : Bool) : IsReadable (bool b)
  | number {n : Number} (readable : n.IsReadable) : IsReadable (number n)
  | string (s : String) : IsReadable (string s)
  | array {items : List Json} (readable : ∀ v ∈ items, IsReadable v) : IsReadable (array items)
  | object {members : List (String × Json)} (readable : ∀ m ∈ members, IsReadable m.2) :
      IsReadable (object members)

/-! ## What is written -/

/-- Whether nothing but commas, colons, blanks and line feeds stands between the parts of a
document. -/
structure Layout.Spaced (layout : Layout) : Prop where
  itemBreak : ∀ level, Parser.Blank (layout.itemBreak level).toList
  closeBreak : ∀ level, Parser.Blank (layout.closeBreak level).toList
  comma : ∃ blanks, layout.comma.toList = ',' :: blanks ∧ Parser.Blank blanks
  colon : ∃ blanks, layout.colon.toList = ':' :: blanks ∧ Parser.Blank blanks

theorem blank_indentation (level : Nat) : Parser.Blank (indentation level).toList := by
  intro c hc
  simp only [indentation, String.toList_append, String.toList_ofList, List.mem_append] at hc
  rcases hc with hc | hc
  · exact Or.inr (List.mem_singleton.mp hc)
  · exact Or.inl (List.eq_of_mem_replicate hc)

theorem Layout.spaced_indented : Layout.indented.Spaced where
  itemBreak level := blank_indentation (level + 1)
  closeBreak level := blank_indentation level
  comma := ⟨[], rfl, by rintro c ⟨⟩⟩
  colon := ⟨[' '], rfl, fun c hc => Or.inl (List.mem_singleton.mp hc)⟩

theorem Layout.spaced_oneLine : Layout.oneLine.Spaced where
  itemBreak level := by rintro c ⟨⟩
  closeBreak level := by rintro c ⟨⟩
  comma := ⟨[' '], rfl, fun c hc => Or.inl (List.mem_singleton.mp hc)⟩
  colon := ⟨[' '], rfl, fun c hc => Or.inl (List.mem_singleton.mp hc)⟩

theorem renderItems_eq_map (layout : Layout) (level : Nat) (items : List Json) :
    renderItems layout level items = items.map (render layout level) := by
  induction items with
  | nil => rfl
  | cons v rest ih => rw [renderItems, ih, List.map_cons]

theorem renderMembers_eq_map (layout : Layout) (level : Nat) (members : List (String × Json)) :
    renderMembers layout level members =
      members.map fun m => (m.1, render layout level m.2) := by
  induction members with
  | nil => rfl
  | cons m rest ih => rw [renderMembers, ih, List.map_cons]

theorem Layout.toList_bracket (layout : Layout) (level : Nat) (opening closing : String)
    {items : List String} (nonempty : items ≠ []) :
    (layout.bracket level opening closing items).toList =
      opening.toList ++ ((layout.itemBreak level).toList ++
        ((layout.comma ++ layout.itemBreak level).toList.intercalate (items.map (·.toList)) ++
          ((layout.closeBreak level).toList ++ closing.toList))) := by
  have some_item : ¬items.isEmpty = true := by simpa using nonempty
  rw [Layout.bracket, if_neg some_item]
  simp [String.toList_intercalate]

theorem Layout.toList_bracket_nil (layout : Layout) (level : Nat) (opening closing : String) :
    (layout.bracket level opening closing []).toList = opening.toList ++ closing.toList := by
  rw [Layout.bracket, List.isEmpty_nil, if_pos rfl, String.toList_append]

theorem sortMembers_map (f : Json → String) (members : List (String × Json)) :
    sortMembers (members.map fun m => (m.1, f m.2)) =
      (sorted members).map fun m => (m.1, f m.2) := by
  rw [sortMembers, sorted, List.map_mergeSort]
  exact fun _ _ _ _ => rfl

theorem sorted_map (f : Json → Json) (members : List (String × Json)) :
    sorted (members.map fun m => (m.1, f m.2)) =
      (sorted members).map fun m => (m.1, f m.2) := by
  rw [sorted, sorted, List.map_mergeSort]
  exact fun _ _ _ _ => rfl

theorem mem_sorted {m : String × Json} {members : List (String × Json)} :
    m ∈ sorted members ↔ m ∈ members :=
  List.mem_mergeSort

theorem denotes_word {w : List Char × Json} (word : w ∈ Parser.words)
    (front : ∃ c rest, w.1 = c :: rest ∧ Parser.isSpace c = false ∧
      c ∉ [']', '\x22', '[', '\x7b']) (plain : ∀ c ∈ w.1, Parser.IsPlain c) :
    Parser.Denotes w.1 w.2 := by
  have reads := Parser.scalar_word word
  obtain ⟨c, rest, first, no_space, no_mark⟩ := front
  rw [first] at reads plain ⊢
  exact Parser.denotes_of_scalar no_space no_mark plain fun t p _ => reads t p

theorem denotes_numberText {n : Number} (readable : n.IsReadable) :
    Parser.Denotes (numberText n).toList (number n.reread) := by
  have reads := fun t p => Parser.scalar_numberText (t := t) readable (p := p)
  have plain := fun c => Parser.plain_of_mem_numberText (n := n) (c := c)
  obtain ⟨c, rest, first, no_space, no_mark⟩ := Parser.front_numberText n
  rw [first] at reads plain ⊢
  exact Parser.denotes_of_scalar no_space no_mark plain reads

theorem denotes_render {layout : Layout} (spaced : layout.Spaced) {v : Json}
    (readable : v.IsReadable) (level : Nat) :
    Parser.Denotes (render layout level v).toList v.reread := by
  obtain ⟨blanks, comma, blank⟩ := spaced.comma
  obtain ⟨blanks', colon, blank_colon⟩ := spaced.colon
  induction readable generalizing level with
  | null =>
      exact denotes_word (List.mem_of_getElem? (i := 0) rfl) ⟨_, _, rfl, rfl, by decide⟩
        (Parser.plain_of_all (by decide))
  | bool b =>
      cases b with
      | true =>
          exact denotes_word (List.mem_of_getElem? (i := 1) rfl) ⟨_, _, rfl, rfl, by decide⟩
            (Parser.plain_of_all (by decide))
      | false =>
          exact denotes_word (List.mem_of_getElem? (i := 2) rfl) ⟨_, _, rfl, rfl, by decide⟩
            (Parser.plain_of_all (by decide))
  | number readable => exact denotes_numberText readable
  | string s => exact Parser.denotes_stringText s
  | @array items readable ih =>
      rw [render, reread, renderItems_eq_map, rereadItems_eq_map]
      by_cases empty : items = []
      · rw [empty, List.map_nil, Layout.toList_bracket_nil]
        exact Parser.denotes_empty_array
      · have listed := Parser.denotes_array (spaced.itemBreak level) (spaced.closeBreak level)
          (blank.append (spaced.itemBreak level))
          (items.map fun v => ((render layout (level + 1) v).toList, v.reread))
          (by simpa using empty) (List.forall_mem_map.mpr fun v hv => ih v hv (level + 1))
        rw [Layout.toList_bracket layout level _ _ (by simpa using empty), String.toList_append,
          comma]
        simpa [Function.comp_def] using listed
  | @object members readable ih =>
      rw [render, reread, renderMembers_eq_map, rereadMembers_eq_map, sortMembers_map, sorted_map]
      have ih : ∀ m ∈ sorted members, ∀ level, Parser.Denotes (render layout level m.2).toList
          m.2.reread := fun m hm => ih m (mem_sorted.mp hm)
      generalize sorted members = ordered at ih ⊢
      by_cases empty : ordered = []
      · rw [empty, List.map_nil, List.map_nil, Layout.toList_bracket_nil]
        exact Parser.denotes_empty_object
      · have gathered := Parser.denotes_object (spaced.itemBreak level) (spaced.closeBreak level)
          (blank.append (spaced.itemBreak level)) blank_colon
          (ordered.map fun m => (m.1, (render layout (level + 1) m.2).toList, m.2.reread))
          (by simpa using empty) (List.forall_mem_map.mpr fun m hm => ih m hm (level + 1))
        rw [Layout.toList_bracket layout level _ _ (by simpa using empty), String.toList_append,
          comma]
        simpa [Function.comp_def, Parser.membersText, Parser.memberText, colon] using gathered

theorem parse_of_denotes {text : List Char} {v : Json} (denotes : Parser.Denotes text v) :
    parse text = .ok v := by
  have value := denotes.value (2 * text.length + 2) [] 0 (by omega) fun c hc => by cases hc
  obtain ⟨c, rest, front, no_space, -⟩ := denotes.front
  have plain := denotes.plain c (front ▸ List.mem_cons_self)
  have no_mark : c ≠ '\ufeff' := by
    rintro rfl
    revert plain
    decide
  have start := Parser.skipSpace_self (t := text) (by rw [front]; rintro d ⟨⟩; exact no_space) 0
  have rest := Parser.skipSpace_self (t := []) (by rintro d ⟨⟩) (0 + text.length)
  rw [List.append_nil] at value
  unfold parse
  split
  · exact absurd (List.cons.inj front).1.symm no_mark
  · simp only [start, value, rest]

theorem parse_indentedText {v : Json} (readable : v.IsReadable) :
    parse v.indentedText.toList = .ok v.reread :=
  parse_of_denotes (denotes_render Layout.spaced_indented readable 0)

theorem parse_lineText {v : Json} (readable : v.IsReadable) :
    parse v.lineText.toList = .ok v.reread :=
  parse_of_denotes (denotes_render Layout.spaced_oneLine readable 0)

theorem plain_indentedText {v : Json} (readable : v.IsReadable) :
    ∀ c ∈ v.indentedText.toList, Parser.IsPlain c :=
  (denotes_render Layout.spaced_indented readable 0).plain

/-! ## The members of an object -/

theorem insertMember_of_not_mem {key : String} {members : List (String × Json)}
    (fresh : key ∉ members.map (·.1)) (v : Json) :
    insertMember key v members = members ++ [(key, v)] := by
  induction members with
  | nil => rfl
  | cons m rest ih =>
      simp only [List.map_cons, List.mem_cons, not_or] at fresh
      rw [insertMember, if_neg (Ne.symm fresh.1), ih fresh.2, List.cons_append]

theorem gather_of_nodup {members : List (String × Json)} (distinct : (members.map (·.1)).Nodup) :
    gather members = members := by
  have gathered : ∀ read : List (String × Json), ((read ++ members).map (·.1)).Nodup →
      members.foldl (fun read m => insertMember m.1 m.2 read) read = read ++ members := by
    clear distinct
    induction members with
    | nil => simp
    | cons m rest ih =>
        intro read distinct
        have fresh : m.1 ∉ read.map (·.1) := by
          rw [List.map_append, List.nodup_append] at distinct
          exact fun h => distinct.2.2 m.1 h m.1 (by simp) rfl
        rw [List.foldl_cons, insertMember_of_not_mem fresh, ih, List.append_assoc]
        · rfl
        · simpa using distinct
  exact gathered [] distinct

theorem isSome_lookup_iff {key : String} {members : List (String × Json)} :
    (lookup key members).isSome = true ↔ key ∈ members.map (·.1) := by
  induction members with
  | nil => simp [lookup]
  | cons m rest ih =>
      obtain ⟨k, v⟩ := m
      rw [lookup]
      by_cases same : k = key
      · simp [same]
      · rw [if_neg same, ih]
        simp [Ne.symm same]

theorem lookup_eq_some_iff {members : List (String × Json)} (distinct : (members.map (·.1)).Nodup)
    {key : String} {v : Json} : lookup key members = some v ↔ (key, v) ∈ members := by
  induction members with
  | nil => simp [lookup]
  | cons m rest ih =>
      rw [List.map_cons, List.nodup_cons] at distinct
      rw [lookup]
      split
      · rename_i same
        subst same
        have others : (m.1, v) ∉ rest := fun h => distinct.1 (List.mem_map.mpr ⟨_, h, rfl⟩)
        simp [others, Prod.ext_iff, eq_comm]
      · rename_i other
        simp [ih distinct.2, Prod.ext_iff, Ne.symm other]

def rereadMap (members : List (String × Json)) : List (String × Json) :=
  gather (sorted (rereadMembers members))

section

variable {members : List (String × Json)} (distinct : (members.map (·.1)).Nodup)
include distinct

theorem rereadMap_perm : (rereadMap members).Perm (rereadMembers members) := by
  have ordered : (sorted (rereadMembers members)).Perm (rereadMembers members) :=
    List.mergeSort_perm _ _
  have keys : (rereadMembers members).map (·.1) = members.map (·.1) := by
    rw [rereadMembers_eq_map, List.map_map]
    rfl
  rw [rereadMap, gather_of_nodup]
  · exact ordered
  · rw [(ordered.map _).nodup_iff, keys]
    exact distinct

end

/-- Under each key stands what stood there, however the members are ordered and their values are
changed. -/
theorem lookup_of_perm {members m : List (String × Json)} (distinct : (members.map (·.1)).Nodup)
    {f : Json → Json} (same : m.Perm (members.map fun e => (e.1, f e.2))) (key : String) :
    lookup key m = (lookup key members).map f := by
  have distinct' : (m.map (·.1)).Nodup := by
    rw [(same.map _).nodup_iff, List.map_map]
    exact distinct
  refine Option.ext fun v => ?_
  rw [lookup_eq_some_iff distinct', same.mem_iff, Option.map_eq_some_iff]
  simp only [lookup_eq_some_iff distinct, List.mem_map, Prod.mk.injEq, Prod.exists]
  constructor
  · rintro ⟨k, w, hw, rfl, rfl⟩
    exact ⟨w, hw, rfl⟩
  · rintro ⟨w, hw, rfl⟩
    exact ⟨key, w, hw, rfl, rfl⟩

/-! ## Documents in another order -/

structure IsReordering (f : Json → Json) : Prop where
  null : f .null = .null
  bool : ∀ b, f (.bool b) = .bool b
  number : ∀ n, f (.number n) = .number n
  string : ∀ s, f (.string s) = .string s
  array : ∀ items, f (.array items) = .array (items.map f)
  object : ∀ {members : List (String × Json)}, (members.map (·.1)).Nodup →
    ∃ m, f (.object members) = .object m ∧ m.Perm (members.map fun e => (e.1, f e.2))

theorem isReordering_id : IsReordering id where
  null := rfl
  bool _ := rfl
  number _ := rfl
  string _ := rfl
  array items := congrArg Json.array (List.map_id items).symm
  object := fun {members} _ => ⟨members, rfl, .of_eq (List.map_id members).symm⟩

/-- A document that is written and read again is the document, in the order of its keys. -/
theorem isReordering_reread : IsReordering reread where
  null := rfl
  bool _ := rfl
  number n := congrArg Json.number (Number.reread_eq n)
  string _ := rfl
  array items := congrArg Json.array (rereadItems_eq_map items)
  object := fun {members} distinct =>
    ⟨rereadMap members, rfl, rereadMembers_eq_map members ▸ rereadMap_perm distinct⟩

end TacticalDesign.Json
