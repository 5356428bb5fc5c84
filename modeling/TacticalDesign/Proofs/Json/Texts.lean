import Mathlib.Tactic.IntervalCases
import TacticalDesign.Json.Parser
import TacticalDesign.Json.Printer
/-!
# Texts in documents

The writer escapes a text character by character, and the reader takes each escape for the character
that it stands for. A character beyond the basic plane is written as two units and read as one.
-/

namespace TacticalDesign.Json.Parser

/-! ## Units -/

theorem hexValue?_hexDigitChar {n : Nat} (h : n < 16) :
    hexValue? (Text.hexDigitChar n) = some n := by
  interval_cases n <;> rfl

theorem hexText_four (n : Nat) :
    Text.hexText 4 n = [Text.hexDigitChar (n / 4096 % 16), Text.hexDigitChar (n / 256 % 16),
      Text.hexDigitChar (n / 16 % 16), Text.hexDigitChar (n / 1 % 16)] :=
  rfl

theorem fourHex?_hexText {n : Nat} (h : n < 0x10000) (t : List Char) :
    fourHex? (Text.hexText 4 n ++ t) = some (n, t) := by
  have digit : ∀ m, hexValue? (Text.hexDigitChar (m % 16)) = some (m % 16) :=
    fun m => hexValue?_hexDigitChar (Nat.mod_lt m (by decide))
  rw [hexText_four]
  simp only [List.cons_append, List.nil_append, fourHex?, digit, Option.some.injEq,
    Prod.mk.injEq, and_true]
  omega

theorem toNat_not_surrogate (c : Char) : c.toNat < 0xd800 ∨ 0xdfff < c.toNat := by
  rcases c.valid with low | ⟨high, -⟩
  · exact Or.inl low
  · exact Or.inr high

theorem toNat_lt (c : Char) : c.toNat < 0x110000 := by
  rcases c.valid with low | ⟨-, high⟩
  · exact Nat.lt_trans low (by decide)
  · exact high

theorem unitChar_toNat (c : Char) : unitChar c.toNat = c := by
  have plain : ¬(0xd800 ≤ c.toNat ∧ c.toNat < 0xe000) := by
    have := toNat_not_surrogate c
    omega
  rw [unitChar, if_neg plain, Char.ofNat_toNat]

/-! ## Escapes -/

theorem readEscape_unit {c : Char} (basic : c.toNat < 0x10000) {t : List Char} (more : t ≠ []) :
    readEscape ('u' :: (Text.hexText 4 c.toNat ++ t)) = .char c 5 := by
  have long : ¬(Text.hexText 4 c.toNat ++ t).length ≤ 4 := by
    have := List.length_pos_iff.mpr more
    simp [hexText_four]
    omega
  have alone : ¬(0xd800 ≤ c.toNat ∧ c.toNat < 0xdc00 ∧ 6 < t.length) := by
    have := toNat_not_surrogate c
    omega
  rw [readEscape, if_neg long, fourHex?_hexText basic]
  simp only [if_neg alone, unitChar_toNat]

theorem readEscape_surrogates (high low : Nat) (high_ge : 0xd800 ≤ high) (high_lt : high < 0xdc00)
    (low_ge : 0xdc00 ≤ low) (low_lt : low < 0xe000) {t : List Char} (more : t ≠ []) :
    readEscape ('u' :: (Text.hexText 4 high ++ (escapeUnit low ++ t))) =
      .char (Char.ofNat (0x10000 + (high - 0xd800) * 0x400 + (low - 0xdc00))) 11 := by
  have unit : escapeUnit low ++ t = '\x5c' :: 'u' :: (Text.hexText 4 low ++ t) := rfl
  have long : ¬(Text.hexText 4 high ++ (escapeUnit low ++ t)).length ≤ 4 := by
    simp [hexText_four, escapeUnit]
  have pair : 0xd800 ≤ high ∧ high < 0xdc00 ∧ 6 < (escapeUnit low ++ t).length := by
    have := List.length_pos_iff.mpr more
    refine ⟨high_ge, high_lt, ?_⟩
    simp [hexText_four, escapeUnit]
    omega
  rw [readEscape, if_neg long, fourHex?_hexText (Nat.lt_trans high_lt (by decide))]
  simp only [if_pos pair]
  simp only [unit, fourHex?_hexText (Nat.lt_trans low_lt (by decide)),
    if_pos (And.intro low_ge low_lt)]

theorem readEscape_simple {c d : Char} (h : simpleEscape? d = some c) (t : List Char) :
    readEscape (d :: t) = .char c 1 := by
  have no_unit : d ≠ 'u' := by
    rintro rfl
    cases h
  rw [readEscape]
  · simp only [h]
  · exact fun e => no_unit e

/-! ## Characters -/

/-- How a character is written: as a mark behind a backslash, as it is, or as one or two units. -/
theorem escapeChar_cases (c : Char) :
    (∃ d, simpleEscape? d = some c ∧ escapeChar c = [Text.backslash, d]) ∨
      (32 ≤ c.toNat ∧ c.toNat < 127 ∧ c ≠ Text.doubleQuote ∧ c ≠ Text.backslash ∧
        escapeChar c = [c]) ∨
      (c.toNat < 0x10000 ∧ escapeChar c = escapeUnit c.toNat) ∨
      (0x10000 ≤ c.toNat ∧ escapeChar c =
        escapeUnit (0xd800 + (c.toNat - 0x10000) / 0x400) ++
          escapeUnit (0xdc00 + c.toNat % 0x400)) := by
  unfold escapeChar
  split
  case h_8 quote backslash _ _ _ _ _ =>
      by_cases printing : 32 ≤ c.toNat ∧ c.toNat < 127
      · exact Or.inr (Or.inl ⟨printing.1, printing.2, quote, backslash, if_pos printing⟩)
      · by_cases basic : c.toNat < 0x10000
        · exact Or.inr (Or.inr (Or.inl ⟨basic, by simp only [if_neg printing, if_pos basic]⟩))
        · exact Or.inr (Or.inr (Or.inr
            ⟨Nat.le_of_not_lt basic, by simp only [if_neg printing, if_neg basic]⟩))
  all_goals exact Or.inl ⟨_, by rfl, rfl⟩

variable {start : Nat} {read t : List Char} {p : Nat} {c : Char}

theorem stringBody_escape {n : Nat} {rest : List Char} (h : readEscape rest = .char c n) :
    stringBody start read ⟨Text.backslash :: rest, p⟩ =
      stringBody start (c :: read) ⟨rest.drop n, p + 1 + n⟩ := by
  rw [stringBody]
  simp only [Text.backslash, h]
  rfl

theorem stringBody_plain (printing : 32 ≤ c.toNat) (no_quote : c ≠ Text.doubleQuote)
    (no_escape : c ≠ Text.backslash) :
    stringBody start read ⟨c :: t, p⟩ = stringBody start (c :: read) ⟨t, p + 1⟩ := by
  rw [stringBody]
  simp only [if_neg (show ¬c = '\x22' from no_quote), if_neg (show ¬c = '\x5c' from no_escape),
    if_neg (Nat.not_lt.mpr printing)]

theorem stringBody_escapeChar (more : t ≠ []) :
    stringBody start read ⟨escapeChar c ++ t, p⟩ =
      stringBody start (c :: read) ⟨t, p + (escapeChar c).length⟩ := by
  rcases escapeChar_cases c with ⟨d, simple, written⟩ | ⟨printing, -, quote, backslash, written⟩ |
    ⟨basic, written⟩ | ⟨beyond, written⟩
  · rw [written]
    exact stringBody_escape (readEscape_simple simple t)
  · rw [written]
    exact stringBody_plain printing quote backslash
  · rw [written]
    exact stringBody_escape (readEscape_unit basic more)
  · have bound := toNat_lt c
    have read_as := readEscape_surrogates (0xd800 + (c.toNat - 0x10000) / 0x400)
      (0xdc00 + c.toNat % 0x400) (by omega) (by omega) (by omega) (by omega) more
    have value : 0x10000 + (0xd800 + (c.toNat - 0x10000) / 0x400 - 0xd800) * 0x400 +
        (0xdc00 + c.toNat % 0x400 - 0xdc00) = c.toNat := by omega
    rw [value, Char.ofNat_toNat] at read_as
    rw [written, List.append_assoc]
    exact stringBody_escape read_as

theorem stringBody_flatMap (s : List Char) (read t : List Char) (p : Nat) :
    stringBody start read ⟨s.flatMap escapeChar ++ Text.doubleQuote :: t, p⟩ =
      .ok (String.ofList (read.reverse ++ s), ⟨t, p + (s.flatMap escapeChar).length + 1⟩) := by
  induction s generalizing read p with
  | nil =>
      rw [List.flatMap_nil, List.nil_append, stringBody]
      simp [Text.doubleQuote]
  | cons c rest ih =>
      rw [List.flatMap_cons, List.append_assoc, stringBody_escapeChar (by simp), ih]
      simp [Nat.add_assoc]

theorem toList_stringText (s : String) :
    (stringText s).toList =
      Text.doubleQuote :: (s.toList.flatMap escapeChar ++ [Text.doubleQuote]) := by
  simp [stringText]

theorem stringBody_stringText (start : Nat) (s : String) (t : List Char) (p : Nat) :
    stringBody start [] ⟨((stringText s).toList ++ t).tail, p + 1⟩ =
      .ok (s, ⟨t, p + (stringText s).toList.length⟩) := by
  rw [toList_stringText, List.cons_append, List.tail_cons, List.append_assoc, List.singleton_append,
    stringBody_flatMap, List.reverse_nil, List.nil_append, String.ofList_toList]
  simp only [List.length_cons, List.length_append, List.length_nil]
  congr 3
  omega

/-! ## Plain characters -/

def IsPlain (c : Char) : Prop := c = '\n' ∨ 32 ≤ c.toNat ∧ c.toNat < 127

instance (c : Char) : Decidable (IsPlain c) := inferInstanceAs (Decidable (_ ∨ _))

theorem plain_of_all {s : List Char} (h : s.all (fun c => decide (IsPlain c)) = true) :
    ∀ c ∈ s, IsPlain c := by
  simpa using h

theorem plain_hexDigitChar (n : Nat) : IsPlain (Text.hexDigitChar (n % 16)) := by
  have digits : ∀ m < 16, IsPlain (Text.hexDigitChar m) := by decide
  exact digits _ (Nat.mod_lt n (by decide))

theorem plain_of_mem_escapeUnit {n : Nat} (h : c ∈ escapeUnit n) : IsPlain c := by
  simp only [escapeUnit, hexText_four, List.cons_append, List.nil_append, List.mem_cons,
    List.not_mem_nil, or_false] at h
  rcases h with rfl | rfl | rfl | rfl | rfl | rfl
  · decide
  · decide
  all_goals exact plain_hexDigitChar _

theorem plain_of_simpleEscape? {d : Char} (h : simpleEscape? d = some c) : IsPlain d := by
  unfold simpleEscape? at h
  split at h
  all_goals first | decide | cases h

theorem plain_of_mem_escapeChar {d : Char} (h : d ∈ escapeChar c) : IsPlain d := by
  rcases escapeChar_cases c with ⟨e, simple, written⟩ | ⟨low, high, -, -, written⟩ |
    ⟨-, written⟩ | ⟨-, written⟩ <;> rw [written] at h
  · simp only [List.mem_cons, List.not_mem_nil, or_false] at h
    rcases h with rfl | rfl
    · decide
    · exact plain_of_simpleEscape? simple
  · obtain rfl := List.mem_singleton.mp h
    exact Or.inr ⟨low, high⟩
  · exact plain_of_mem_escapeUnit h
  · exact (List.mem_append.mp h).elim plain_of_mem_escapeUnit plain_of_mem_escapeUnit

theorem plain_of_mem_stringText {s : String} (h : c ∈ (stringText s).toList) : IsPlain c := by
  rw [toList_stringText, List.mem_cons, List.mem_append, List.mem_singleton] at h
  rcases h with rfl | h | rfl
  · decide
  · obtain ⟨d, -, hd⟩ := List.mem_flatMap.mp h
    exact plain_of_mem_escapeChar hd
  · decide

end TacticalDesign.Json.Parser
