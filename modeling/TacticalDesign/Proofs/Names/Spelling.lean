import Mathlib.Data.List.Chain
import TacticalDesign.Proofs.Names.Words
/-!
# Spellings of a name

Words in small letters make up a name in three ways: with low lines between them, with a capital at
the front of each but the first, or with a capital at the front of each. Between low lines every
list of words is read back from its name. Between capitals a word ends where the next capital
stands, unless both words have one letter: then their capitals are one run, and the two words are
read as one. So words of two letters or more are read back from every spelling.
-/

namespace TacticalDesign

open Text

/-! ## Capitals -/

theorem toNat_toUpper {c : Char} (lower : isAsciiLower c = true) :
    c.toUpper.toNat + 32 = c.toNat := by
  have range : 97 ≤ c.val.toNat ∧ c.val.toNat ≤ 122 := NameWords.isAsciiLower_iff.mp lower
  have small : 'a'.val ≤ c.val ∧ c.val ≤ 'z'.val := by
    rw [UInt32.le_iff_toNat_le, UInt32.le_iff_toNat_le]
    exact range
  -- the distance to the capitals is negative and wraps
  have distance : ('A'.val - 'a'.val).toNat = 2 ^ 32 - 32 := rfl
  have code : c.toUpper.val = c.val + ('A'.val - 'a'.val) := by
    delta Char.toUpper
    rw [dif_pos small]
  have value : c.toUpper.val.toNat = (c.val.toNat + (2 ^ 32 - 32)) % 2 ^ 32 := by
    rw [code, UInt32.toNat_add, distance]
  change c.toUpper.val.toNat + 32 = c.val.toNat
  omega

theorem isAsciiUpper_toUpper {c : Char} (lower : isAsciiLower c = true) :
    isAsciiUpper c.toUpper = true := by
  have range := NameWords.isAsciiLower_iff.mp lower
  have value := toNat_toUpper lower
  rw [NameWords.isAsciiUpper_iff]
  omega

theorem lowerAscii_toUpper {c : Char} (lower : isAsciiLower c = true) :
    lowerAscii c.toUpper = c := by
  rw [lowerAscii, if_pos (isAsciiUpper_toUpper lower), toNat_toUpper lower, Char.ofNat_toNat]

theorem map_lowerAscii_of_lower {text : List Char} (small : ∀ c ∈ text, isAsciiLower c = true) :
    text.map lowerAscii = text := by
  have same : ∀ c ∈ text, lowerAscii c = id c := fun c hc =>
    lowerAscii_of_not_upper (NameWords.not_upper_of_lower (small c hc))
  rw [List.map_congr_left same, List.map_id]

def capital (text : List Char) : List Char := text.modifyHead Char.toUpper

theorem toList_capitalize (text : String) : text.capitalize.toList = capital text.toList := by
  change (String.ofList (String.Pos.Raw.utf8SetAux
    (String.Pos.Raw.utf8GetAux text.toList 0 0).toUpper text.toList 0 0)).toList = _
  rw [String.toList_ofList]
  cases text.toList <;> rfl

/-! ## Spellings -/

inductive Spelling where
  /-- Low lines stand between the words. -/
  | snake
  /-- Each word but the first has a capital at its front. -/
  | camel
  /-- Each word has a capital at its front. -/
  | pascal
deriving DecidableEq, Repr

namespace Spelling

def name : Spelling → List String → String
  | snake, words => "_".intercalate words
  | camel, [] => ""
  | camel, first :: later => first ++ String.join (later.map String.capitalize)
  | pascal, words => String.join (words.map String.capitalize)

def capitalized : Spelling → List String → List String
  | snake, _ => []
  | camel, words => words.tail
  | pascal, words => words

end Spelling

namespace NameWords

variable {c : Char} {text behind word next : List Char} {words later : List (List Char)}

structure IsWord (word : List Char) : Prop where
  ne_nil : word ≠ []
  small : ∀ c ∈ word, isAsciiLower c = true

theorem isWord_of_length {word : String}
    (h : 2 ≤ word.length ∧ ∀ c ∈ word.toList, isAsciiLower c = true) : IsWord word.toList where
  ne_nil empty := by
    have two := h.1
    rw [← String.length_toList, empty] at two
    contradiction
  small := h.2

theorem exists_letter (h : IsWord word) (short : ¬2 ≤ word.length) :
    ∃ c, isAsciiLower c = true ∧ word = [c] := by
  match word, short, h with
  | [], _, h => exact absurd rfl h.ne_nil
  | [c], _, h => exact ⟨c, h.small c List.mem_cons_self, rfl⟩
  | _ :: _ :: rest, short, _ => exact absurd (Nat.le_add_left 2 rest.length) short

theorem map_lowerAscii_capital (h : IsWord word) : (capital word).map lowerAscii = word := by
  cases word with
  | nil => rfl
  | cons c rest =>
      obtain ⟨lower, small⟩ := List.forall_mem_cons.mp h.small
      rw [capital, List.modifyHead_cons, List.map_cons, lowerAscii_toUpper lower,
        map_lowerAscii_of_lower small]

/-! ## One word and what stands behind it -/

theorem member_of_lower (lower : isAsciiLower c = true) : isMember c = true :=
  isMember_iff.mpr (.inl (isAsciiLetter_iff.mpr (.inr lower)))

theorem member_of_upper (upper : isAsciiUpper c = true) : isMember c = true :=
  isMember_iff.mpr (.inl (isAsciiLetter_iff.mpr (.inl upper)))

theorem scan_cons_of_joins (member : isMember c = true) (joined : joins c text = true) :
    scan (c :: text) = attach c (scan text) := by
  rw [scan_cons, if_pos member, if_pos joined]

theorem scan_cons_of_not_joins (member : isMember c = true) (apart : joins c text = false) :
    scan (c :: text) = [c] :: scan text := by
  rw [scan_cons, if_pos member, apart]
  rfl

theorem exists_scan_cons (member : isMember c = true) (text : List Char) :
    ∃ word words, scan (c :: text) = (c :: word) :: words := by
  cases joined : joins c text with
  | false => exact ⟨[], scan text, scan_cons_of_not_joins member joined⟩
  | true =>
      rw [scan_cons_of_joins member joined]
      cases scan text with
      | nil => exact ⟨[], [], rfl⟩
      | cons word words => exact ⟨word, words, rfl⟩

theorem joins_of_lower (lower : isAsciiLower c = true) (text : List Char) :
    joins c text = text.head?.any isAsciiLower := by
  have decimal : isDecimal c = false :=
    not_decimal_of_letter (isAsciiLetter_iff.mpr (.inr lower))
  cases text with
  | nil => rfl
  | cons d rest => simp [joins_cons, lower, not_upper_of_lower lower, decimal]

theorem joins_of_upper (upper : isAsciiUpper c = true) (text : List Char) :
    joins c text = (text.head?.any isAsciiLower ||
      (text.head?.any isAsciiUpper && !text.tail.head?.any isAsciiLower)) := by
  have decimal : isDecimal c = false :=
    not_decimal_of_letter (isAsciiLetter_iff.mpr (.inl upper))
  cases text with
  | nil => rfl
  | cons d rest => simp [joins_cons, upper, not_lower_of_upper upper, decimal, Bool.or_comm]

theorem scan_append_of_isWord (h : IsWord word) (ends : behind.head?.any isAsciiLower = false) :
    scan (word ++ behind) = word :: scan behind := by
  obtain ⟨some_char, small⟩ := h
  induction word with
  | nil => exact absurd rfl some_char
  | cons c rest ih =>
      obtain ⟨lower, small⟩ := List.forall_mem_cons.mp small
      have member := member_of_lower lower
      have joined := joins_of_lower lower (rest ++ behind)
      cases rest with
      | nil => exact scan_cons_of_not_joins member (joined.trans ends)
      | cons d rest =>
          have goes_on : isAsciiLower d = true := small d List.mem_cons_self
          rw [List.cons_append, scan_cons_of_joins member (joined.trans goes_on),
            ih (List.cons_ne_nil d rest) small]
          rfl

theorem scan_capital_append (h : IsWord word) (two : 2 ≤ word.length)
    (ends : behind.head?.any isAsciiLower = false) :
    scan (capital word ++ behind) = capital word :: scan behind := by
  match word, two with
  | c :: d :: rest, _ =>
      obtain ⟨lower, small⟩ := List.forall_mem_cons.mp h.small
      have upper := isAsciiUpper_toUpper lower
      have goes_on : isAsciiLower d = true := small d List.mem_cons_self
      have joined : joins c.toUpper (d :: rest ++ behind) = true := by
        rw [joins_of_upper upper, List.cons_append, List.head?_cons, Option.any_some, goes_on,
          Bool.true_or]
      change scan (c.toUpper :: (d :: rest ++ behind)) = _
      rw [scan_cons_of_joins (member_of_upper upper) joined,
        scan_append_of_isWord ⟨List.cons_ne_nil d rest, small⟩ ends]
      rfl

/-! ## Words one after another -/

def Apart (a b : List Char) : Prop := 2 ≤ a.length ∨ 2 ≤ b.length

theorem head?_capitals (h : ∀ w ∈ words, IsWord w) :
    (words.flatMap capital).head?.any isAsciiLower = false := by
  cases words with
  | nil => rfl
  | cons word later =>
      obtain ⟨some_char, small⟩ := h word List.mem_cons_self
      obtain ⟨c, rest, rfl⟩ := List.exists_cons_of_ne_nil some_char
      exact not_lower_of_upper (isAsciiUpper_toUpper (small c List.mem_cons_self))

/-- A word of one letter ends before a word of more letters: of the two capitals the second one
belongs to the small letter behind it. -/
theorem scan_lone_capital (upper : isAsciiUpper c = true) (h : ∀ w ∈ later, IsWord w)
    (long : ∀ w ∈ later.head?, 2 ≤ w.length) :
    scan (c :: later.flatMap capital) = [c] :: scan (later.flatMap capital) := by
  refine scan_cons_of_not_joins (member_of_upper upper) ?_
  rw [joins_of_upper upper, head?_capitals h, Bool.false_or]
  cases later with
  | nil => rfl
  | cons word later =>
      match word, long word rfl, h word List.mem_cons_self with
      | d :: e :: rest, _, isWord =>
          have goes_on : isAsciiLower e = true :=
            isWord.small e (List.mem_cons_of_mem d List.mem_cons_self)
          have second : (((d :: e :: rest) :: later).flatMap capital).tail.head? = some e := rfl
          rw [second, Option.any_some, goes_on, Bool.not_true, Bool.and_false]

/-- A word ends before the next one when one of them has two letters or more. -/
theorem scan_capital_of_apart (h : IsWord word) (hlater : ∀ w ∈ later, IsWord w)
    (apart : ∀ w ∈ later.head?, Apart word w) :
    scan (capital word ++ later.flatMap capital) =
      capital word :: scan (later.flatMap capital) := by
  by_cases two : 2 ≤ word.length
  · exact scan_capital_append h two (head?_capitals hlater)
  · have long : ∀ w ∈ later.head?, 2 ≤ w.length := fun w hw => (apart w hw).resolve_left two
    obtain ⟨c, lower, rfl⟩ := exists_letter h two
    exact scan_lone_capital (isAsciiUpper_toUpper lower) hlater long

/-- Two words of one letter are read as one word or as a part of one. -/
theorem exists_scan_of_not_apart (h : ∀ w ∈ word :: next :: later, IsWord w)
    (joined : ¬Apart word next) :
    ∃ c d rest words,
      scan ((word :: next :: later).flatMap capital) = (c :: d :: rest) :: words := by
  obtain ⟨hword, behind⟩ := List.forall_mem_cons.mp h
  obtain ⟨hnext, hlater⟩ := List.forall_mem_cons.mp behind
  obtain ⟨c, lower, rfl⟩ := exists_letter hword (not_or.mp joined).1
  obtain ⟨d, lower', rfl⟩ := exists_letter hnext (not_or.mp joined).2
  have upper := isAsciiUpper_toUpper lower
  have upper' := isAsciiUpper_toUpper lower'
  have run : joins c.toUpper (d.toUpper :: later.flatMap capital) = true := by
    have opens : (d.toUpper :: later.flatMap capital).head?.any isAsciiUpper = true := upper'
    rw [joins_of_upper upper, List.tail_cons, head?_capitals hlater, opens, Bool.not_false,
      Bool.and_true, Bool.or_true]
  obtain ⟨rest, words, found⟩ :=
    exists_scan_cons (member_of_upper upper') (later.flatMap capital)
  refine ⟨c.toUpper, d.toUpper, rest, words, ?_⟩
  change scan (c.toUpper :: d.toUpper :: later.flatMap capital) = _
  rw [scan_cons_of_joins (member_of_upper upper) run, found]
  rfl

/-- Words with capitals at their front are read back when of any two neighbours one has two letters
or more, and only then. -/
theorem map_scan_capitals_iff (h : ∀ w ∈ words, IsWord w) :
    (scan (words.flatMap capital)).map (List.map lowerAscii) = words ↔ words.IsChain Apart := by
  induction words with
  | nil => exact iff_of_true rfl .nil
  | cons word later ih =>
      obtain ⟨hword, hlater⟩ := List.forall_mem_cons.mp h
      rw [List.isChain_cons]
      by_cases apart : ∀ w ∈ later.head?, Apart word w
      · rw [List.flatMap_cons, scan_capital_of_apart hword hlater apart, List.map_cons,
          map_lowerAscii_capital hword, List.cons_inj_right, ih hlater, and_iff_right apart]
      · refine iff_of_false (fun back => ?_) fun chain => apart chain.1
        cases later with
        | nil => exact apart fun w hw => by cases hw
        | cons next later =>
            have joined : ¬Apart word next := fun near =>
              apart fun w hw => Option.some.inj hw ▸ near
            obtain ⟨c, d, rest, words, found⟩ := exists_scan_of_not_apart h joined
            rw [found, List.map_cons, List.cons.injEq] at back
            refine joined (.inl ?_)
            rw [← back.1, List.length_map]
            exact Nat.le_add_left 2 rest.length

theorem scan_intercalate (h : ∀ w ∈ words, IsWord w) :
    scan (['_'].intercalate words) = words := by
  induction words with
  | nil => rfl
  | cons word later ih =>
      obtain ⟨hword, hlater⟩ := List.forall_mem_cons.mp h
      have ends : ([] : List Char).head?.any isAsciiLower = false := rfl
      have alone := scan_append_of_isWord hword ends
      rw [List.append_nil, scan] at alone
      cases later with
      | nil => rw [List.intercalate_singleton, alone]
      | cons next later =>
          rw [List.intercalate_cons_cons, List.append_assoc, List.singleton_append,
            scan_append_low_line, alone, ih hlater]
          rfl

end NameWords

/-! ## Names -/

open NameWords

namespace Spelling

theorem toList_name_snake (words : List String) :
    (snake.name words).toList = ['_'].intercalate (words.map String.toList) := by
  rw [name, String.toList_intercalate]
  rfl

theorem toList_name_pascal (words : List String) :
    (pascal.name words).toList = (words.map String.toList).flatMap capital := by
  rw [name, String.toList_join, List.flatMap_map, List.flatMap_map]
  simp only [toList_capitalize]

theorem toList_name_camel (first : String) (later : List String) :
    (camel.name (first :: later)).toList =
      first.toList ++ (later.map String.toList).flatMap capital := by
  rw [name, String.toList_append, ← toList_name_pascal, name]

end Spelling

theorem splitWords_eq_iff (name : String) (words : List String) :
    splitWords name = words ↔
      (scan name.toList).map (List.map lowerAscii) = words.map String.toList := by
  have read : (splitWords name).map String.toList =
      (scan name.toList).map (List.map lowerAscii) := by
    rw [splitWords, List.map_map]
    exact List.map_congr_left fun word _ => String.toList_ofList
  rw [← read]
  exact ⟨fun same => same ▸ rfl, fun same =>
    List.map_injective_iff.mpr (fun _ _ => String.toList_inj.mp) same⟩

/-- A name is read back as the words that it was made of when of any two neighbours with capitals
at their front one has two letters or more, and only then. -/
theorem splitWords_name_iff {words : List String} (h : ∀ w ∈ words, IsWord w.toList)
    (spelling : Spelling) : splitWords (spelling.name words) = words ↔
      ((spelling.capitalized words).map String.toList).IsChain Apart := by
  have letters : ∀ w ∈ words.map String.toList, IsWord w := List.forall_mem_map.mpr h
  rw [splitWords_eq_iff]
  cases spelling with
  | snake =>
      refine iff_of_true ?_ .nil
      have same : ∀ w ∈ words.map String.toList, w.map lowerAscii = id w := fun w hw =>
        map_lowerAscii_of_lower (letters w hw).small
      rw [Spelling.toList_name_snake, scan_intercalate letters, List.map_congr_left same,
        List.map_id]
  | camel =>
      cases words with
      | nil => exact iff_of_true rfl .nil
      | cons first later =>
          obtain ⟨hfirst, hlater⟩ := List.forall_mem_cons.mp letters
          rw [Spelling.toList_name_camel, scan_append_of_isWord hfirst (head?_capitals hlater),
            List.map_cons, map_lowerAscii_of_lower hfirst.small, List.map_cons, List.cons_inj_right]
          exact map_scan_capitals_iff hlater
  | pascal =>
      rw [Spelling.toList_name_pascal]
      exact map_scan_capitals_iff letters

example : splitWords (Spelling.pascal.name ["x", "y", "axis"]) = ["xy", "axis"] := by
  decide +kernel

namespace Spelling

theorem mem_of_mem_capitalized {spelling : Spelling} {words : List String} {word : String}
    (h : word ∈ spelling.capitalized words) : word ∈ words := by
  cases spelling with
  | snake => cases h
  | camel => exact List.mem_of_mem_tail h
  | pascal => exact h

theorem isChain_apart (spelling : Spelling) {words : List String}
    (two : ∀ w ∈ words, 2 ≤ w.length) :
    ((spelling.capitalized words).map String.toList).IsChain Apart := by
  refine (List.isChain_map _).mpr (List.Pairwise.isChain ?_)
  exact List.pairwise_of_forall_mem_list fun a ha b _ =>
    .inl (String.length_toList.symm ▸ two a (mem_of_mem_capitalized ha))

end Spelling

end TacticalDesign
