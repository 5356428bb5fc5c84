import TacticalDesign.Proofs.Json.Numbers
/-!
# Texts that denote values

A text denotes a value when the reader takes it for that value wherever it stands. Quoted texts and
scalars denote themselves, and what denotes values denotes their list between brackets and an object
between braces.
-/

namespace TacticalDesign.Json

/-- The members that the reader gathers: of equal keys the last counts. -/
def gather (members : List (String × Json)) : List (String × Json) :=
  members.foldl (fun read m => insertMember m.1 m.2 read) []

namespace Parser

/-! ## Blanks -/

def Blank (s : List Char) : Prop := ∀ c ∈ s, c = ' ' ∨ c = '\n'

theorem Blank.append {s t : List Char} (hs : Blank s) (ht : Blank t) : Blank (s ++ t) :=
  fun c hc => (List.mem_append.mp hc).elim (hs c) (ht c)

theorem Blank.plain {s : List Char} (blank : Blank s) : ∀ c ∈ s, IsPlain c := by
  intro c hc
  rcases blank c hc with rfl | rfl <;> decide

theorem Blank.isSpace {s : List Char} (blank : Blank s) : ∀ c ∈ s, isSpace c = true := by
  intro c hc
  rcases blank c hc with rfl | rfl <;> rfl

theorem skipSpace_blank {s t : List Char} (blank : Blank s)
    (front : ∀ c ∈ t.head?, isSpace c = false) (p : Nat) :
    skipSpace ⟨s ++ t, p⟩ = ⟨t, p + s.length⟩ := by
  induction s generalizing p with
  | nil =>
      cases t with
      | nil =>
          rw [List.nil_append, skipSpace]
          rfl
      | cons c rest =>
          rw [List.nil_append, skipSpace, front c rfl]
          rfl
  | cons c s ih =>
      rw [List.cons_append, skipSpace, blank.isSpace c List.mem_cons_self, if_pos rfl,
        ih fun d hd => blank d (List.mem_cons_of_mem c hd)]
      simp only [List.length_cons]
      congr 1
      omega

theorem skipSpace_self {t : List Char} (front : ∀ c ∈ t.head?, isSpace c = false) (p : Nat) :
    skipSpace ⟨t, p⟩ = ⟨t, p⟩ :=
  skipSpace_blank (s := []) (by rintro c ⟨⟩) front p

/-! ## Texts that denote values -/

/-- Whether a text stands for a value wherever no numeral could go on behind it. -/
structure Denotes (text : List Char) (v : Json) : Prop where
  front : ∃ c rest, text = c :: rest ∧ isSpace c = false ∧ c ≠ ']'
  plain : ∀ c ∈ text, IsPlain c
  value : ∀ fuel t p, text.length ≤ fuel → Stops t →
    value fuel ⟨text ++ t, p⟩ = .ok (v, ⟨t, p + text.length⟩)

theorem value_eq_scalar {c : Char} (h : c ∉ ['\x22', '[', '\x7b']) (fuel : Nat) (rest : List Char)
    (p : Nat) : value (fuel + 1) ⟨c :: rest, p⟩ = scalar ⟨c :: rest, p⟩ := by
  simp only [value]
  split
  · rename_i e
    cases e
    simp at h
  · rename_i e
    cases e
    simp at h
  · rename_i e
    cases e
    simp at h
  · rfl

theorem denotes_of_scalar {c : Char} {rest : List Char} {v : Json} (front : isSpace c = false)
    (no_bracket : c ∉ [']', '\x22', '[', '\x7b']) (plain : ∀ d ∈ c :: rest, IsPlain d)
    (reads : ∀ t p, Stops t →
      scalar ⟨c :: rest ++ t, p⟩ = .ok (v, ⟨t, p + (c :: rest).length⟩)) :
    Denotes (c :: rest) v where
  front := ⟨c, rest, rfl, front, fun e => no_bracket (e ▸ List.mem_cons_self)⟩
  plain := plain
  value fuel t p enough stops := by
    obtain ⟨fuel, rfl⟩ := Nat.exists_eq_add_of_lt (Nat.lt_of_lt_of_le (Nat.succ_pos _) enough)
    rw [Nat.zero_add, List.cons_append,
      value_eq_scalar fun h => no_bracket (List.mem_cons_of_mem _ h)]
    exact reads t p stops

/-! ## Texts -/

theorem value_quote {text : String} {rest : List Char} {p : Nat} {s : Input} (fuel : Nat)
    (h : stringBody p [] ⟨rest, p + 1⟩ = .ok (text, s)) :
    value (fuel + 1) ⟨Text.doubleQuote :: rest, p⟩ = .ok (string text, s) := by
  rw [Text.doubleQuote, value, h]

theorem denotes_stringText (s : String) : Denotes (stringText s).toList (string s) where
  front := by
    rw [toList_stringText]
    exact ⟨_, _, rfl, rfl, by decide⟩
  plain _ h := plain_of_mem_stringText h
  value fuel t p enough _ := by
    have read := stringBody_stringText p s t p
    rw [toList_stringText] at enough read ⊢
    obtain ⟨fuel, rfl⟩ := Nat.exists_eq_add_of_lt (Nat.lt_of_lt_of_le (Nat.succ_pos _) enough)
    rw [Nat.zero_add]
    exact value_quote fuel read

theorem stops_of_blank {s t : List Char} (blank : Blank s)
    (mark : ∃ c rest, t = c :: rest ∧ c ∈ [',', ']', '\x7d']) : Stops (s ++ t) := by
  obtain ⟨c, rest, rfl, mark⟩ := mark
  cases s with
  | nil =>
      rintro d ⟨⟩
      simp only [List.mem_cons, List.not_mem_nil, or_false] at mark
      rcases mark with rfl | rfl | rfl <;> decide
  | cons d s =>
      rintro e ⟨⟩
      rcases blank d List.mem_cons_self with rfl | rfl <;> decide

theorem stops_comma (t : List Char) : Stops (',' :: t) :=
  stops_of_blank (s := []) (by rintro c ⟨⟩) ⟨',', t, rfl, by decide⟩

/-! ## Arrays -/

section

variable {fuel : Nat} {read : List Json} {s s' : Input} {t : List Char} {p q : Nat} {v : Json}

theorem value_array {c : Char} {rest : List Char} (h : skipSpace ⟨t, p + 1⟩ = ⟨c :: rest, q⟩)
    (no_end : c ≠ ']') : value (fuel + 1) ⟨'[' :: t, p⟩ = items fuel [] ⟨c :: rest, q⟩ := by
  rw [value, h]
  split
  · rename_i e
    cases e
    exact absurd rfl no_end
  · rfl

variable {text close blanks : List Char}

theorem items_single (denotes : Denotes text v) (blank : Blank close)
    (enough : text.length ≤ fuel) :
    items (fuel + 1) read ⟨text ++ (close ++ ']' :: t), p⟩ =
      .ok (array (read.reverse ++ [v]), ⟨t, p + (text ++ (close ++ [']'])).length⟩) := by
  have value := denotes.value fuel (close ++ ']' :: t) p enough
    (stops_of_blank blank ⟨_, _, rfl, by decide⟩)
  have last := skipSpace_blank (t := ']' :: t) blank (by rintro c ⟨⟩; rfl) (p + text.length)
  have place : p + (text ++ (close ++ [']'])).length = p + text.length + close.length + 1 := by
    simp only [List.length_append, List.length_singleton]
    omega
  rw [items, value]
  simp only [last, List.reverse_cons, place]

theorem items_comma (denotes : Denotes text v) (blank : Blank blanks)
    (front : ∀ c ∈ t.head?, isSpace c = false) (enough : text.length ≤ fuel) :
    items (fuel + 1) read ⟨text ++ ',' :: (blanks ++ t), p⟩ =
      items fuel (v :: read) ⟨t, p + text.length + 1 + blanks.length⟩ := by
  have value := denotes.value fuel (',' :: (blanks ++ t)) p enough (stops_comma _)
  have comma := skipSpace_self (t := ',' :: (blanks ++ t)) (by rintro c ⟨⟩; rfl) (p + text.length)
  rw [items, value]
  simp only [comma, skipSpace_blank blank front]

end

theorem front_intercalate {text : List Char} {v : Json} (denotes : Denotes text v)
    (separator : List Char) (texts : List (List Char)) (t : List Char) :
    ∃ c rest, separator.intercalate (text :: texts) ++ t = c :: rest ∧ isSpace c = false ∧
      c ≠ ']' := by
  obtain ⟨c, rest, rfl, front⟩ := denotes.front
  cases texts with
  | nil => exact ⟨c, _, by rw [List.intercalate_singleton, List.cons_append], front⟩
  | cons text' texts =>
      refine ⟨c, rest ++ (separator ++ (separator.intercalate (text' :: texts) ++ t)), ?_, front⟩
      rw [List.intercalate_cons_cons]
      simp

theorem items_intercalate {close blanks : List Char} (blank_close : Blank close)
    (blank : Blank blanks) (t : List Char) {entries : List (List Char × Json)}
    (nonempty : entries ≠ []) (denotes : ∀ e ∈ entries, Denotes e.1 e.2) (fuel : Nat)
    (read : List Json) (p : Nat)
    (enough : ((',' :: blanks).intercalate (entries.map (·.1))).length < fuel) :
    items fuel read
        ⟨(',' :: blanks).intercalate (entries.map (·.1)) ++ (close ++ ']' :: t), p⟩ =
      .ok (array (read.reverse ++ entries.map (·.2)),
        ⟨t, p + ((',' :: blanks).intercalate (entries.map (·.1)) ++ (close ++ [']'])).length⟩) := by
  induction entries generalizing fuel read p with
  | nil => exact absurd rfl nonempty
  | cons e rest ih =>
      obtain ⟨fuel, rfl⟩ : ∃ f, fuel = f + 1 := ⟨fuel - 1, by omega⟩
      have first := denotes e List.mem_cons_self
      cases rest with
      | nil =>
          rw [List.map_singleton, List.intercalate_singleton] at enough ⊢
          exact items_single first blank_close (by omega)
      | cons e' rest =>
          rw [List.map_cons, List.map_cons, List.intercalate_cons_cons, ← List.map_cons] at enough ⊢
          obtain ⟨c, behind, front, no_space, -⟩ := front_intercalate
            (denotes e' (List.mem_cons_of_mem e List.mem_cons_self)) (',' :: blanks)
            (rest.map (·.1)) (close ++ ']' :: t)
          rw [← List.map_cons] at front
          generalize (',' :: blanks).intercalate ((e' :: rest).map (·.1)) = later
            at enough ih front ⊢
          simp only [List.length_append, List.length_cons] at enough
          have others := ih (by simp) (fun d hd => denotes d (List.mem_cons_of_mem e hd)) fuel
            (e.2 :: read) (p + e.1.length + 1 + blanks.length) (by omega)
          have place : p + (e.1 ++ ',' :: (blanks ++ (later ++ (close ++ [']'])))).length =
              p + e.1.length + 1 + blanks.length + (later ++ (close ++ [']'])).length := by
            simp only [List.length_append, List.length_cons]
            omega
          simp only [List.append_assoc, List.cons_append]
          rw [items_comma first blank (by rw [front]; rintro d ⟨⟩; exact no_space) (by omega),
            others, place]
          simp

/-! ## Objects -/

def memberText (colon : List Char) (key : String) (text : List Char) : List Char :=
  (stringText key).toList ++ (colon ++ text)

section

variable {fuel : Nat} {read : List (String × Json)} {t : List Char} {p q : Nat} {v : Json}

theorem value_object {c : Char} {rest : List Char} (h : skipSpace ⟨t, p + 1⟩ = ⟨c :: rest, q⟩)
    (no_end : c ≠ '\x7d') : value (fuel + 1) ⟨'\x7b' :: t, p⟩ = members fuel [] ⟨c :: rest, q⟩ := by
  rw [value, h]
  split
  · rename_i e
    cases e
    exact absurd rfl no_end
  · rfl

variable {blanks text : List Char} {key : String}

theorem members_quote {rest : List Char} {s : Input}
    (quoted : stringBody p [] ⟨rest, p + 1⟩ = .ok (key, ⟨':' :: t, q⟩))
    (read_value : value fuel (skipSpace ⟨t, q + 1⟩) = .ok (v, s)) :
    members (fuel + 1) read ⟨Text.doubleQuote :: rest, p⟩ =
      match skipSpace s with
      | ⟨'\x7d' :: rest, p⟩ => .ok (object (insertMember key v read), ⟨rest, p + 1⟩)
      | ⟨',' :: rest, p⟩ => members fuel (insertMember key v read) (skipSpace ⟨rest, p + 1⟩)
      | s => fail .comma s.place := by
  have colon := skipSpace_self (t := ':' :: t) (by rintro c ⟨⟩; rfl) q
  rw [Text.doubleQuote, members, quoted]
  dsimp only
  rw [colon]
  split
  · rename_i e
    cases e
    rewrite [read_value]
    rfl
  · rename_i no_colon
    exact absurd rfl (no_colon t q)

theorem members_memberText (blank : Blank blanks) (denotes : Denotes text v)
    (enough : text.length ≤ fuel) (stops : Stops t) :
    members (fuel + 1) read ⟨memberText (':' :: blanks) key text ++ t, p⟩ =
      match skipSpace ⟨t, p + (memberText (':' :: blanks) key text).length⟩ with
      | ⟨'\x7d' :: rest, p⟩ => .ok (object (insertMember key v read), ⟨rest, p + 1⟩)
      | ⟨',' :: rest, p⟩ => members fuel (insertMember key v read) (skipSpace ⟨rest, p + 1⟩)
      | s => fail .comma s.place := by
  have quoted := stringBody_stringText p key (':' :: (blanks ++ (text ++ t))) p
  obtain ⟨c, rest, front, no_space, -⟩ := denotes.front
  have gap := skipSpace_blank blank (t := text ++ t) (by rw [front]; rintro c ⟨⟩; exact no_space)
    (p + (stringText key).toList.length + 1)
  have read_value := denotes.value fuel t (p + (stringText key).toList.length + 1 + blanks.length)
    enough stops
  rw [← gap] at read_value
  have place : p + (memberText (':' :: blanks) key text).length =
      p + (stringText key).toList.length + 1 + blanks.length + text.length := by
    simp only [memberText, List.length_append, List.length_cons]
    omega
  rw [place, ← members_quote quoted read_value]
  simp [memberText, toList_stringText]

variable {close colon : List Char}

theorem members_single (denotes : Denotes text v) (blank_colon : Blank colon)
    (blank : Blank close) (enough : text.length ≤ fuel) :
    members (fuel + 1) read ⟨memberText (':' :: colon) key text ++ (close ++ '\x7d' :: t), p⟩ =
      .ok (object (insertMember key v read),
        ⟨t, p + (memberText (':' :: colon) key text ++ (close ++ ['\x7d'])).length⟩) := by
  have last := skipSpace_blank (t := '\x7d' :: t) blank (by rintro c ⟨⟩; rfl)
    (p + (memberText (':' :: colon) key text).length)
  have place : p + (memberText (':' :: colon) key text ++ (close ++ ['\x7d'])).length =
      p + (memberText (':' :: colon) key text).length + close.length + 1 := by
    simp only [List.length_append, List.length_singleton]
    omega
  rw [members_memberText blank_colon denotes enough
    (stops_of_blank blank ⟨_, _, rfl, by decide⟩), last, place]
  rfl

theorem members_comma (denotes : Denotes text v) (blank_colon : Blank colon)
    (blank : Blank blanks) (front : ∀ c ∈ t.head?, isSpace c = false)
    (enough : text.length ≤ fuel) :
    members (fuel + 1) read ⟨memberText (':' :: colon) key text ++ ',' :: (blanks ++ t), p⟩ =
      members fuel (insertMember key v read)
        ⟨t, p + (memberText (':' :: colon) key text).length + 1 + blanks.length⟩ := by
  have comma := skipSpace_self (t := ',' :: (blanks ++ t)) (by rintro c ⟨⟩; rfl)
    (p + (memberText (':' :: colon) key text).length)
  rw [members_memberText blank_colon denotes enough (stops_comma _), comma]
  simp only [skipSpace_blank blank front]

end

def membersText (blanks colon : List Char) (entries : List (String × List Char × Json)) :
    List Char :=
  (',' :: blanks).intercalate (entries.map fun e => memberText (':' :: colon) e.1 e.2.1)

theorem membersText_cons_cons (blanks colon : List Char) (e e' : String × List Char × Json)
    (rest : List (String × List Char × Json)) :
    membersText blanks colon (e :: e' :: rest) =
      memberText (':' :: colon) e.1 e.2.1 ++ ',' :: (blanks ++
        membersText blanks colon (e' :: rest)) := by
  simp [membersText, List.intercalate_cons_cons]

theorem front_membersText (blanks colon : List Char) (e : String × List Char × Json)
    (rest : List (String × List Char × Json)) :
    ∃ more, membersText blanks colon (e :: rest) = Text.doubleQuote :: more := by
  cases rest with
  | nil => exact ⟨_, by rw [membersText, List.map_singleton, List.intercalate_singleton, memberText,
      toList_stringText, List.cons_append]⟩
  | cons e' rest => exact ⟨_, by rw [membersText_cons_cons, memberText, toList_stringText,
      List.cons_append, List.cons_append]⟩

theorem members_membersText {close blanks colon : List Char} (blank_close : Blank close)
    (blank : Blank blanks) (blank_colon : Blank colon) (t : List Char)
    {entries : List (String × List Char × Json)} (nonempty : entries ≠ [])
    (denotes : ∀ e ∈ entries, Denotes e.2.1 e.2.2) (fuel : Nat)
    (read : List (String × Json)) (p : Nat)
    (enough : (membersText blanks colon entries).length < fuel) :
    members fuel read ⟨membersText blanks colon entries ++ (close ++ '\x7d' :: t), p⟩ =
      .ok (object (entries.foldl (fun read e => insertMember e.1 e.2.2 read) read),
        ⟨t, p + (membersText blanks colon entries ++ (close ++ ['\x7d'])).length⟩) := by
  induction entries generalizing fuel read p with
  | nil => exact absurd rfl nonempty
  | cons e rest ih =>
      obtain ⟨fuel, rfl⟩ : ∃ f, fuel = f + 1 := ⟨fuel - 1, by omega⟩
      have first := denotes e List.mem_cons_self
      have shorter : e.2.1.length ≤ (memberText (':' :: colon) e.1 e.2.1).length := by
        simp only [memberText, List.length_append]
        omega
      cases rest with
      | nil =>
          have alone : membersText blanks colon [e] = memberText (':' :: colon) e.1 e.2.1 :=
            List.intercalate_singleton
          rw [alone] at enough ⊢
          exact members_single first blank_colon blank_close (by omega)
      | cons e' rest =>
          obtain ⟨more, front⟩ := front_membersText blanks colon e' rest
          rw [membersText_cons_cons] at enough ⊢
          generalize membersText blanks colon (e' :: rest) = later at enough ih front ⊢
          simp only [List.length_append, List.length_cons] at enough
          have others := ih (by simp) (fun d hd => denotes d (List.mem_cons_of_mem e hd)) fuel
            (insertMember e.1 e.2.2 read)
            (p + (memberText (':' :: colon) e.1 e.2.1).length + 1 + blanks.length) (by omega)
          have place : p + (memberText (':' :: colon) e.1 e.2.1 ++
              ',' :: (blanks ++ (later ++ (close ++ ['\x7d'])))).length =
              p + (memberText (':' :: colon) e.1 e.2.1).length + 1 + blanks.length +
                (later ++ (close ++ ['\x7d'])).length := by
            simp only [List.length_append, List.length_cons]
            omega
          simp only [List.append_assoc, List.cons_append]
          rw [members_comma first blank_colon blank (by rw [front]; rintro d ⟨⟩; rfl) (by omega),
            others, place]
          rfl

/-! ## Brackets -/

theorem denotes_empty_array : Denotes ['[', ']'] (array []) where
  front := ⟨'[', [']'], rfl, rfl, by decide⟩
  plain := plain_of_all (by decide)
  value fuel t p enough _ := by
    obtain ⟨fuel, rfl⟩ := Nat.exists_eq_add_of_lt (Nat.lt_of_lt_of_le (Nat.succ_pos _) enough)
    have gap := skipSpace_self (t := ']' :: t) (by rintro c ⟨⟩; rfl) (p + 1)
    rw [Nat.zero_add, List.cons_append, List.singleton_append, value, gap]
    rfl

theorem plain_intercalate {separator : List Char} (hs : ∀ c ∈ separator, IsPlain c)
    {texts : List (List Char)} (ht : ∀ text ∈ texts, ∀ c ∈ text, IsPlain c) :
    ∀ c ∈ separator.intercalate texts, IsPlain c := by
  induction texts with
  | nil => rintro c ⟨⟩
  | cons text rest ih =>
      have first := ht text List.mem_cons_self
      have others := ih fun text' h => ht text' (List.mem_cons_of_mem text h)
      cases rest with
      | nil => rwa [List.intercalate_singleton]
      | cons text' rest =>
          intro c hc
          rw [List.intercalate_cons_cons, List.mem_append, List.mem_append] at hc
          rcases hc with (hc | hc) | hc
          · exact first c hc
          · exact hs c hc
          · exact others c hc

theorem plain_cons {c : Char} {s : List Char} (hc : IsPlain c) (hs : ∀ d ∈ s, IsPlain d) :
    ∀ d ∈ c :: s, IsPlain d :=
  List.forall_mem_cons.mpr ⟨hc, hs⟩

theorem plain_append {s t : List Char} (hs : ∀ c ∈ s, IsPlain c) (ht : ∀ c ∈ t, IsPlain c) :
    ∀ c ∈ s ++ t, IsPlain c :=
  List.forall_mem_append.mpr ⟨hs, ht⟩

theorem denotes_array {start close blanks : List Char} (blank_start : Blank start)
    (blank_close : Blank close) (blank : Blank blanks) (entries : List (List Char × Json))
    (nonempty : entries ≠ []) (denotes : ∀ e ∈ entries, Denotes e.1 e.2) :
    Denotes ('[' :: (start ++ ((',' :: blanks).intercalate (entries.map (·.1)) ++
      (close ++ [']'])))) (array (entries.map (·.2))) where
  front := ⟨'[', _, rfl, rfl, by decide⟩
  plain := by
    have texts : ∀ text ∈ entries.map (·.1), ∀ c ∈ text, IsPlain c := by
      intro text h
      obtain ⟨e, he, rfl⟩ := List.mem_map.mp h
      exact (denotes e he).plain
    exact plain_cons (by decide) (plain_append blank_start.plain (plain_append
      (plain_intercalate (plain_cons (by decide) blank.plain) texts)
      (plain_append blank_close.plain (plain_of_all (by decide)))))
  value fuel t p enough _ := by
    obtain ⟨fuel, rfl⟩ := Nat.exists_eq_add_of_lt (Nat.lt_of_lt_of_le (Nat.succ_pos _) enough)
    have items := items_intercalate blank_close blank t nonempty denotes fuel []
      (p + 1 + start.length)
    obtain ⟨e, rest, rfl⟩ := List.exists_cons_of_ne_nil nonempty
    obtain ⟨c, behind, front, no_space, no_end⟩ := front_intercalate
      (denotes e List.mem_cons_self) (',' :: blanks) (rest.map (·.1)) (close ++ ']' :: t)
    rw [← List.map_cons (f := Prod.fst)] at front
    generalize (',' :: blanks).intercalate ((e :: rest).map (·.1)) = joined
      at enough items front ⊢
    simp only [List.length_cons, List.length_append, List.length_nil] at enough
    have gap := skipSpace_blank blank_start (t := joined ++ (close ++ ']' :: t))
      (by rw [front]; rintro d ⟨⟩; exact no_space) (p + 1)
    rw [front] at gap items
    have place : p + ('[' :: (start ++ (joined ++ (close ++ [']'])))).length =
        p + 1 + start.length + (joined ++ (close ++ [']'])).length := by
      simp only [List.length_cons, List.length_append]
      omega
    rw [place, Nat.zero_add]
    simp only [List.cons_append, List.append_assoc, List.nil_append]
    rw [front, value_array gap no_end, items (by omega)]
    rfl

theorem denotes_empty_object : Denotes ['\x7b', '\x7d'] (object []) where
  front := ⟨'\x7b', ['\x7d'], rfl, rfl, by decide⟩
  plain := plain_of_all (by decide)
  value fuel t p enough _ := by
    obtain ⟨fuel, rfl⟩ := Nat.exists_eq_add_of_lt (Nat.lt_of_lt_of_le (Nat.succ_pos _) enough)
    have gap := skipSpace_self (t := '\x7d' :: t) (by rintro c ⟨⟩; rfl) (p + 1)
    rw [Nat.zero_add, List.cons_append, List.singleton_append, value, gap]
    rfl

theorem plain_membersText {blanks colon : List Char} (blank : Blank blanks)
    (blank_colon : Blank colon) {entries : List (String × List Char × Json)}
    (denotes : ∀ e ∈ entries, Denotes e.2.1 e.2.2) :
    ∀ c ∈ membersText blanks colon entries, IsPlain c := by
  refine plain_intercalate (plain_cons (by decide) blank.plain) fun text h => ?_
  obtain ⟨e, he, rfl⟩ := List.mem_map.mp h
  exact plain_append (fun c hc => plain_of_mem_stringText hc) (plain_append
    (plain_cons (by decide) blank_colon.plain) (denotes e he).plain)

theorem denotes_object {start close blanks colon : List Char} (blank_start : Blank start)
    (blank_close : Blank close) (blank : Blank blanks) (blank_colon : Blank colon)
    (entries : List (String × List Char × Json)) (nonempty : entries ≠ [])
    (denotes : ∀ e ∈ entries, Denotes e.2.1 e.2.2) :
    Denotes ('\x7b' :: (start ++ (membersText blanks colon entries ++ (close ++ ['\x7d']))))
      (object (gather (entries.map fun e => (e.1, e.2.2)))) where
  front := ⟨'\x7b', _, rfl, rfl, by decide⟩
  plain := plain_cons (by decide) (plain_append blank_start.plain (plain_append
    (plain_membersText blank blank_colon denotes)
    (plain_append blank_close.plain (plain_of_all (by decide)))))
  value fuel t p enough _ := by
    obtain ⟨fuel, rfl⟩ := Nat.exists_eq_add_of_lt (Nat.lt_of_lt_of_le (Nat.succ_pos _) enough)
    have read := members_membersText blank_close blank blank_colon t nonempty denotes fuel []
      (p + 1 + start.length)
    obtain ⟨e, rest, rfl⟩ := List.exists_cons_of_ne_nil nonempty
    obtain ⟨more, front⟩ := front_membersText blanks colon e rest
    have gathered : (e :: rest).foldl (fun read e => insertMember e.1 e.2.2 read) [] =
        gather ((e :: rest).map fun e => (e.1, e.2.2)) := by
      rw [gather, List.foldl_map]
    rw [gathered] at read
    generalize gather ((e :: rest).map fun e => (e.1, e.2.2)) = found at read ⊢
    generalize membersText blanks colon (e :: rest) = joined at enough read front ⊢
    simp only [List.length_cons, List.length_append, List.length_nil] at enough
    have read := read (by omega)
    have gap := skipSpace_blank blank_start (t := joined ++ (close ++ '\x7d' :: t))
      (by rw [front]; rintro d ⟨⟩; rfl) (p + 1)
    have place : p + ('\x7b' :: (start ++ (joined ++ (close ++ ['\x7d'])))).length =
        p + 1 + start.length + (joined ++ (close ++ ['\x7d'])).length := by
      simp only [List.length_cons, List.length_append]
      omega
    rw [place, Nat.zero_add]
    rw [front, List.cons_append] at gap read
    simp only [List.cons_append, List.append_assoc, List.nil_append]
    rw [front, List.cons_append, value_object gap (by decide), read]

end Parser

end TacticalDesign.Json
