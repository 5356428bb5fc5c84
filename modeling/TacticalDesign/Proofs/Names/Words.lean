import Mathlib.Data.List.Forall2
import TacticalDesign.NameWords
/-!
# The words of a name

A word is a run of capitals that no small letter follows, or small letters behind a capital or
none, or a run of digits. These are tried in this order, and a run is as long as it can be, but
gives characters back as long as what comes behind it does not match. The scan of a text finds just
what this pattern finds from left to right, although it gives nothing back. No letter and no digit
is lost on the way, and none comes twice, so names that differ in the case of letters and in low
lines at most are normalized alike.
-/

namespace TacticalDesign

inductive CharPattern where
  /-- One character of a kind or more. -/
  | run (kind : Char → Bool)
  | optional (kind : Char → Bool)
  /-- Nothing, but only where no character of a kind follows. -/
  | unlessBefore (kind : Char → Bool)
  | inTurn (first second : CharPattern)
  | orElse (first second : CharPattern)

namespace CharPattern

/-- What runs of a kind leave of a text, the longest run first. -/
def behindRun (kind : Char → Bool) : List Char → List (List Char)
  | [] => []
  | c :: rest => if kind c then behindRun kind rest ++ [rest] else []

/-- What the matches at the front of a text leave of it, in the order in which they are tried. -/
def remainders : CharPattern → List Char → List (List Char)
  | run kind, text => behindRun kind text
  | optional kind, text => if text.head?.any kind then [text.tail, text] else [text]
  | unlessBefore kind, text => if text.head?.any kind then [] else [text]
  | inTurn first second, text => (first.remainders text).flatMap second.remainders
  | orElse first second, text => first.remainders text ++ second.remainders text

/-- The matches that a pattern finds in a text. At each place the first one that is tried counts,
and the search goes on behind it; where there is none, one character is passed over. -/
inductive Finds (p : CharPattern) : List Char → List (List Char) → Prop where
  | nil : Finds p [] []
  | word {text word rest : List Char} {words : List (List Char)} (split : text = word ++ rest)
      (some_char : word ≠ []) (first : (p.remainders text).head? = some rest)
      (later : Finds p rest words) : Finds p text (word :: words)
  | skip {c : Char} {rest : List Char} {words : List (List Char)}
      (no_match : p.remainders (c :: rest) = []) (later : Finds p rest words) :
      Finds p (c :: rest) words

theorem Finds.unique {p : CharPattern} {text : List Char} {a b : List (List Char)}
    (ha : Finds p text a) (hb : Finds p text b) : a = b := by
  induction ha generalizing b with
  | nil =>
      cases hb with
      | nil => rfl
      | word split some_char _ _ =>
          exact absurd (List.append_eq_nil_iff.mp split.symm).1 some_char
  | word split some_char first _ ih =>
      cases hb with
      | nil => exact absurd (List.append_eq_nil_iff.mp split.symm).1 some_char
      | word split' _ first' later =>
          obtain rfl := Option.some.inj (first.symm.trans first')
          obtain rfl := List.append_cancel_right (split.symm.trans split')
          rw [ih later]
      | skip no_match _ =>
          rw [no_match] at first
          cases first
  | skip no_match _ ih =>
      cases hb with
      | word _ _ first _ =>
          rw [no_match] at first
          cases first
      | skip _ later => exact ih later

end CharPattern

namespace NameWords

open Text CharPattern

def wordPattern : CharPattern :=
  .orElse (.inTurn (.run isAsciiUpper) (.unlessBefore isAsciiLower))
    (.orElse (.inTurn (.optional isAsciiUpper) (.run isAsciiLower)) (.run isDecimal))

/-! ## Kinds of characters -/

/-- A range of characters, by the numbers of its first and its last one. -/
theorem between_iff {low high c : Char} :
    (decide (low ≤ c) && decide (c ≤ high)) = true ↔
      low.toNat ≤ c.toNat ∧ c.toNat ≤ high.toNat := by
  rw [Bool.and_eq_true, decide_eq_true_eq, decide_eq_true_eq]
  exact Iff.rfl

theorem isAsciiUpper_iff {c : Char} : isAsciiUpper c = true ↔ 65 ≤ c.toNat ∧ c.toNat ≤ 90 :=
  between_iff

theorem isAsciiLower_iff {c : Char} : isAsciiLower c = true ↔ 97 ≤ c.toNat ∧ c.toNat ≤ 122 :=
  between_iff

theorem isAsciiDigit_iff {c : Char} : isAsciiDigit c = true ↔ 48 ≤ c.toNat ∧ c.toNat ≤ 57 :=
  between_iff

theorem isAsciiLetter_iff {c : Char} :
    isAsciiLetter c = true ↔ isAsciiUpper c = true ∨ isAsciiLower c = true :=
  iff_of_eq (Bool.or_eq_true _ _)

theorem isMember_iff {c : Char} :
    isMember c = true ↔ isAsciiLetter c = true ∨ isDecimal c = true :=
  iff_of_eq (Bool.or_eq_true _ _)

theorem isDecimal_of_ascii {c : Char} (ascii : c.toNat < 128) : isDecimal c = isAsciiDigit c :=
  if_pos ascii

theorem not_lower_of_upper {c : Char} (upper : isAsciiUpper c = true) : isAsciiLower c = false := by
  rw [isAsciiUpper_iff] at upper
  rw [← Bool.not_eq_true, isAsciiLower_iff]
  omega

theorem not_upper_of_lower {c : Char} (lower : isAsciiLower c = true) : isAsciiUpper c = false := by
  rw [← Bool.not_eq_true]
  intro upper
  rw [not_lower_of_upper upper] at lower
  cases lower

theorem not_decimal_of_letter {c : Char} (letter : isAsciiLetter c = true) :
    isDecimal c = false := by
  rw [isAsciiLetter_iff, isAsciiUpper_iff, isAsciiLower_iff] at letter
  rw [isDecimal_of_ascii (by omega), ← Bool.not_eq_true, isAsciiDigit_iff]
  omega

theorem not_letter_of_decimal {c : Char} (decimal : isDecimal c = true) :
    isAsciiUpper c = false ∧ isAsciiLower c = false := by
  rw [← Bool.or_eq_false_iff, ← Bool.not_eq_true]
  intro letter
  rw [not_decimal_of_letter letter] at decimal
  cases decimal

/-! ## The first match -/

variable {c : Char} {rest : List Char}

theorem behindRun_cons_of_pos {kind : Char → Bool} (h : kind c = true) :
    behindRun kind (c :: rest) = behindRun kind rest ++ [rest] := if_pos h

theorem behindRun_cons_of_neg {kind : Char → Bool} (h : kind c = false) :
    behindRun kind (c :: rest) = [] := if_neg (by simp [h])

theorem behindRun_of_head? {kind : Char → Bool} {text : List Char}
    (h : text.head?.any kind = false) : behindRun kind text = [] := by
  cases text with
  | nil => rfl
  | cons d rest => exact behindRun_cons_of_neg h

def behindCapitals (text : List Char) : List (List Char) :=
  (behindRun isAsciiUpper text).flatMap (unlessBefore isAsciiLower).remainders

theorem behindCapitals_cons (upper : isAsciiUpper c = true) :
    behindCapitals (c :: rest) =
      behindCapitals rest ++ (unlessBefore isAsciiLower).remainders rest := by
  rw [behindCapitals, behindRun_cons_of_pos upper, List.flatMap_append, List.flatMap_singleton,
    behindCapitals]

theorem remainders_optional (kind : Char → Bool) (text : List Char) :
    (optional kind).remainders text =
      if text.head?.any kind then [text.tail, text] else [text] := rfl

theorem remainders_unlessBefore (kind : Char → Bool) (text : List Char) :
    (unlessBefore kind).remainders text = if text.head?.any kind then [] else [text] := rfl

theorem remainders_eq (text : List Char) : wordPattern.remainders text =
    behindCapitals text ++ (((optional isAsciiUpper).remainders text).flatMap
      (behindRun isAsciiLower) ++ behindRun isDecimal text) := rfl

theorem remainders_upper (upper : isAsciiUpper c = true) :
    wordPattern.remainders (c :: rest) =
      behindCapitals (c :: rest) ++ behindRun isAsciiLower rest := by
  have letter : isAsciiLetter c = true := isAsciiLetter_iff.mpr (.inl upper)
  rw [remainders_eq, behindRun_cons_of_neg (not_decimal_of_letter letter), remainders_optional]
  simp [upper, behindRun_cons_of_neg (not_lower_of_upper upper)]

theorem remainders_lower (lower : isAsciiLower c = true) :
    wordPattern.remainders (c :: rest) = behindRun isAsciiLower (c :: rest) := by
  have letter : isAsciiLetter c = true := isAsciiLetter_iff.mpr (.inr lower)
  have upper := not_upper_of_lower lower
  rw [remainders_eq, behindCapitals, behindRun_cons_of_neg (not_decimal_of_letter letter),
    behindRun_cons_of_neg upper, remainders_optional]
  simp [upper]

theorem remainders_decimal (upper : isAsciiUpper c = false) (lower : isAsciiLower c = false) :
    wordPattern.remainders (c :: rest) = behindRun isDecimal (c :: rest) := by
  rw [remainders_eq, behindCapitals, behindRun_cons_of_neg upper, remainders_optional]
  simp [upper, behindRun_cons_of_neg lower]

theorem remainders_of_not_member (other : isMember c = false) :
    wordPattern.remainders (c :: rest) = [] := by
  obtain ⟨no_letter, no_decimal⟩ := Bool.or_eq_false_iff.mp other
  obtain ⟨no_upper, no_lower⟩ := Bool.or_eq_false_iff.mp no_letter
  rw [remainders_decimal no_upper no_lower, behindRun_cons_of_neg no_decimal]

theorem behindCapitals_of_head? {text : List Char} (h : text.head?.any isAsciiUpper = false) :
    behindCapitals text = [] := by
  rw [behindCapitals, behindRun_of_head? h, List.flatMap_nil]

theorem behindCapitals_of_small {text : List Char}
    (small : text.tail.head?.any isAsciiLower = true) : behindCapitals text = [] := by
  cases text with
  | nil => rfl
  | cons d rest =>
      cases upper : isAsciiUpper d with
      | false => exact behindCapitals_of_head? upper
      | true =>
          rw [List.tail_cons] at small
          obtain ⟨e, he, lower⟩ := (Option.any_eq_true _ _).mp small
          have behind : rest.head?.any isAsciiUpper = false := by
            rw [he]
            exact not_upper_of_lower lower
          rw [behindCapitals_cons upper, behindCapitals_of_head? behind, remainders_unlessBefore,
            small]
          rfl

theorem joins_cons (c d : Char) (rest : List Char) :
    joins c (d :: rest) =
      ((isAsciiUpper c && isAsciiUpper d && !(rest.head?.any isAsciiLower)) ||
        (isAsciiUpper c && isAsciiLower d) || (isAsciiLower c && isAsciiLower d) ||
        (isDecimal c && isDecimal d)) := rfl

/-- A character that does not join the text behind it is a word of its own. -/
theorem head?_remainders_of_not_joins (member : isMember c = true)
    (apart : joins c rest = false) : (wordPattern.remainders (c :: rest)).head? = some rest := by
  cases upper : isAsciiUpper c with
  | true =>
      obtain ⟨none_longer, not_small⟩ :
          behindCapitals rest = [] ∧ rest.head?.any isAsciiLower = false := by
        cases rest with
        | nil => exact ⟨rfl, rfl⟩
        | cons d rest =>
            simp only [joins_cons, upper, Bool.true_and, Bool.or_eq_false_iff] at apart
            obtain ⟨⟨⟨capital, small⟩, -⟩, -⟩ := apart
            refine ⟨?_, small⟩
            cases isUpper : isAsciiUpper d with
            | false => exact behindCapitals_of_head? isUpper
            | true =>
                apply behindCapitals_of_small
                simpa [isUpper] using capital
      rw [remainders_upper upper, behindCapitals_cons upper, none_longer, remainders_unlessBefore,
        not_small]
      rfl
  | false =>
      cases lower : isAsciiLower c with
      | true =>
          have ends : rest.head?.any isAsciiLower = false := by
            cases rest with
            | nil => rfl
            | cons d rest =>
                simp only [joins_cons, upper, lower, Bool.true_and, Bool.or_eq_false_iff] at apart
                exact apart.1.2
          rw [remainders_lower lower, behindRun_cons_of_pos lower, behindRun_of_head? ends]
          rfl
      | false =>
          have decimal : isDecimal c = true := by
            simpa [isMember_iff, isAsciiLetter_iff, upper, lower] using member
          have ends : rest.head?.any isDecimal = false := by
            cases rest with
            | nil => rfl
            | cons d rest =>
                simp only [joins_cons, decimal, Bool.true_and, Bool.or_eq_false_iff] at apart
                exact apart.2
          rw [remainders_decimal upper lower, behindRun_cons_of_pos decimal,
            behindRun_of_head? ends]
          rfl

theorem head?_behindRun_of_run {kind : Char → Bool} (first : kind c = true)
    (goes_on : rest.head?.any kind = true) :
    (behindRun kind (c :: rest)).head? = (behindRun kind rest).head? := by
  cases rest with
  | nil => cases goes_on
  | cons d rest =>
      rw [behindRun_cons_of_pos first, behindRun_cons_of_pos goes_on]
      simp [List.head?_append]

/-- A character that joins the text behind it makes the first word of this text longer. -/
theorem head?_remainders_of_joins (joined : joins c rest = true) :
    (wordPattern.remainders (c :: rest)).head? = (wordPattern.remainders rest).head? := by
  cases rest with
  | nil => cases joined
  | cons d rest =>
      simp only [joins_cons, Bool.or_eq_true, Bool.and_eq_true, Bool.not_eq_true'] at joined
      obtain ((⟨⟨upper, upper'⟩, not_small⟩ | ⟨upper, lower⟩) | ⟨lower, lower'⟩) |
        ⟨decimal, decimal'⟩ := joined
      · have stops : (unlessBefore isAsciiLower).remainders rest = [rest] := by
          rw [remainders_unlessBefore, not_small]
          rfl
        rw [remainders_upper upper, remainders_upper upper', behindCapitals_cons upper,
          behindCapitals_cons upper', stops]
        simp [List.head?_append]
      · have no_run : behindCapitals (c :: d :: rest) = [] := behindCapitals_of_small lower
        rw [remainders_upper upper, remainders_lower lower, no_run, List.nil_append]
      · rw [remainders_lower lower, remainders_lower lower']
        exact head?_behindRun_of_run lower lower'
      · obtain ⟨upper, lower⟩ := not_letter_of_decimal decimal
        obtain ⟨upper', lower'⟩ := not_letter_of_decimal decimal'
        rw [remainders_decimal upper lower, remainders_decimal upper' lower']
        exact head?_behindRun_of_run decimal decimal'

theorem member_of_joins (joined : joins c rest = true) : rest.head?.any isMember = true := by
  cases rest with
  | nil => cases joined
  | cons d rest =>
      simp only [joins_cons, Bool.or_eq_true, Bool.and_eq_true] at joined
      rw [List.head?_cons, Option.any_some, isMember_iff, isAsciiLetter_iff]
      rcases joined with ((⟨⟨-, h⟩, -⟩ | ⟨-, h⟩) | ⟨-, h⟩) | ⟨-, h⟩ <;> simp [h]

theorem remainders_ne_nil {text : List Char} (member : text.head?.any isMember = true) :
    wordPattern.remainders text ≠ [] := by
  rw [← List.isSome_head?]
  induction text with
  | nil => cases member
  | cons c rest ih =>
      cases joined : joins c rest with
      | true =>
          rw [head?_remainders_of_joins joined]
          exact ih (member_of_joins joined)
      | false =>
          rw [head?_remainders_of_not_joins member joined]
          rfl

/-! ## The scan -/

theorem scan_cons (c : Char) (rest : List Char) :
    scan (c :: rest) =
      if isMember c then if joins c rest then attach c (scan rest) else [c] :: scan rest
      else scan rest := rfl

theorem finds_scan (text : List Char) : wordPattern.Finds text (scan text) := by
  induction text with
  | nil => exact .nil
  | cons c rest ih =>
      rw [scan_cons]
      cases member : isMember c with
      | false => exact .skip (remainders_of_not_member member) ih
      | true =>
          rw [if_pos rfl]
          cases joined : joins c rest with
          | false =>
              exact .word rfl (List.cons_ne_nil c [])
                (head?_remainders_of_not_joins member joined) ih
          | true =>
              rw [if_pos rfl]
              have first := head?_remainders_of_joins joined
              generalize scan rest = words at ih
              cases ih with
              | nil => cases joined
              | word split some_char found later =>
                  exact .word (congrArg (c :: ·) split) (List.cons_ne_nil c _)
                    (first.trans found) later
              | skip no_match later =>
                  exact absurd no_match (remainders_ne_nil (member_of_joins joined))

theorem finds_iff {text : List Char} {words : List (List Char)} :
    wordPattern.Finds text words ↔ words = scan text :=
  ⟨fun h => h.unique (finds_scan text), fun h => h ▸ finds_scan text⟩

end NameWords

open Text

/-! ## Lower case -/

theorem isAsciiLower_lowerAscii {c : Char} (upper : isAsciiUpper c = true) :
    isAsciiLower (lowerAscii c) = true := by
  have range := NameWords.isAsciiUpper_iff.mp upper
  have value : (lowerAscii c).toNat = c.toNat + 32 := by
    rw [lowerAscii, if_pos upper, Char.ofNat, dif_pos (Or.inl (by omega))]
    rfl
  rw [NameWords.isAsciiLower_iff, value]
  omega

theorem lowerAscii_of_not_upper {c : Char} (other : isAsciiUpper c = false) : lowerAscii c = c :=
  if_neg (by simp [other])

theorem lowerAscii_lowerAscii (c : Char) : lowerAscii (lowerAscii c) = lowerAscii c := by
  cases upper : isAsciiUpper c with
  | true =>
      have lower := isAsciiLower_lowerAscii upper
      exact lowerAscii_of_not_upper (NameWords.not_upper_of_lower lower)
  | false => rw [lowerAscii_of_not_upper upper, lowerAscii_of_not_upper upper]

namespace NameWords

theorem isMember_lowerAscii (c : Char) : isMember (lowerAscii c) = isMember c := by
  cases upper : isAsciiUpper c with
  | true =>
      have letter : isAsciiLetter c = true := isAsciiLetter_iff.mpr (.inl upper)
      have small : isAsciiLetter (lowerAscii c) = true :=
        isAsciiLetter_iff.mpr (.inr (isAsciiLower_lowerAscii upper))
      rw [isMember_iff.mpr (.inl letter), isMember_iff.mpr (.inl small)]
  | false => rw [lowerAscii_of_not_upper upper]

/-- It does not matter whether a text is put in lower case before or after its letters and digits
are picked. -/
theorem map_lowerAscii_filter (text : List Char) :
    (text.filter isMember).map lowerAscii = (text.map lowerAscii).filter isMember := by
  rw [List.filter_map]
  refine congrArg (List.map lowerAscii) (List.filter_congr fun c _ => ?_)
  exact (isMember_lowerAscii c).symm

/-! ## Words at low lines -/

theorem low_line_not_member : isMember '_' = false := by decide

theorem scan_low_line (rest : List Char) : scan ('_' :: rest) = scan rest := by
  rw [scan_cons, low_line_not_member]
  rfl

theorem joins_append_low_line (c : Char) (text behind : List Char) :
    joins c (text ++ '_' :: behind) = joins c text := by
  cases text with
  | nil =>
      have kinds : isAsciiUpper '_' = false ∧ isAsciiLower '_' = false ∧ isDecimal '_' = false := by
        decide
      have nothing : joins c [] = false := rfl
      simp [joins_cons, kinds, nothing]
  | cons d rest =>
      cases rest with
      | nil =>
          have small : isAsciiLower '_' = false := by decide
          simp [joins_cons, small]
      | cons e rest => rfl

theorem scan_ne_nil {text : List Char} (member : text.head?.any isMember = true) :
    scan text ≠ [] := by
  intro empty
  have found := finds_scan text
  rw [empty] at found
  cases found with
  | nil => cases member
  | skip no_match _ => exact remainders_ne_nil member no_match

theorem scan_append_low_line (text behind : List Char) :
    scan (text ++ '_' :: behind) = scan text ++ scan behind := by
  induction text with
  | nil => exact scan_low_line behind
  | cons c rest ih =>
      rw [List.cons_append, scan_cons, scan_cons, joins_append_low_line, ih]
      split
      · split
        · rename_i joined
          obtain ⟨word, words, found⟩ :=
            List.exists_cons_of_ne_nil (scan_ne_nil (member_of_joins joined))
          rw [found]
          rfl
        · rfl
      · rfl

theorem scan_splitAtChar (text : List Char) : (splitAtChar '_' text).flatMap scan = scan text := by
  induction size : text.length using Nat.strongRecOn generalizing text with
  | _ size ih =>
      by_cases low_line : '_' ∈ text
      · obtain ⟨front, behind, rfl⟩ := List.append_of_mem low_line
        rw [List.length_append, List.length_cons] at size
        rw [splitAtChar_append, List.flatMap_append, scan_append_low_line,
          ih _ (by omega) front rfl, ih _ (by omega) behind rfl]
      · rw [splitAtChar_bare low_line, List.flatMap_singleton]

/-! ## Letters and digits -/

theorem flatten_attach (c : Char) (words : List (List Char)) :
    (attach c words).flatten = c :: words.flatten := by
  cases words <;> rfl

/-- The words of a text hold its letters and digits, each of them once and in their order. -/
theorem flatten_scan (text : List Char) : (scan text).flatten = text.filter isMember := by
  induction text with
  | nil => rfl
  | cons c rest ih =>
      rw [scan_cons, List.filter_cons]
      split
      · split
        · rw [flatten_attach, ih]
        · rw [List.flatten_cons, ih]
          rfl
      · exact ih

end NameWords

open NameWords

theorem toList_normalizeName (name : String) :
    (normalizeName name).toList = (name.toList.filter isMember).map lowerAscii := by
  rw [normalizeName, String.toList_join, splitWords, List.flatMap_map, ← flatten_scan,
    List.map_flatten, List.flatMap_def]
  simp only [String.toList_ofList]

/-- Two names with the same characters but for the case of letters and for low lines. -/
def SpelledAlike (a b : String) : Prop :=
  (a.toList.filter (· ≠ '_')).map lowerAscii = (b.toList.filter (· ≠ '_')).map lowerAscii

instance (a b : String) : Decidable (SpelledAlike a b) := inferInstanceAs (Decidable (_ = _))

theorem normalizeName_of_spelledAlike {a b : String} (alike : SpelledAlike a b) :
    normalizeName a = normalizeName b := by
  have picked : ∀ name : String, (normalizeName name).toList =
      ((name.toList.filter (· ≠ '_')).map lowerAscii).filter isMember := by
    intro name
    rw [toList_normalizeName, ← map_lowerAscii_filter, List.filter_filter]
    refine congrArg (List.map lowerAscii) (List.filter_congr fun c _ => ?_)
    by_cases low_line : c = '_'
    · subst low_line
      decide
    · simp [low_line]
  rw [← String.toList_inj, picked, picked, alike]

/-- The words of a name are what the pattern of words finds between its low lines, in lower case.
They make up the normalized name, which is the name without anything but letters of ASCII and
decimal digits, with the letters in lower case. So a normalized name is normalized, and names that
differ in the case of letters and in low lines at most have one normalized name. -/
theorem normalizeName_eq (name : String) :
    (∃ found, List.Forall₂ wordPattern.Finds (splitAtChar '_' name.toList) found ∧
      splitWords name = found.flatten.map fun word => String.ofList (word.map lowerAscii)) ∧
    normalizeName name = String.ofList
      ((name.toList.filter fun c => isAsciiLetter c || isDecimal c).map lowerAscii) ∧
    normalizeName (normalizeName name) = normalizeName name ∧
    ∀ other, SpelledAlike name other → normalizeName name = normalizeName other := by
  have letters : ∀ name, normalizeName name =
      String.ofList ((name.toList.filter isMember).map lowerAscii) := by
    intro name
    rw [← toList_normalizeName, String.ofList_toList]
  refine ⟨⟨(splitAtChar '_' name.toList).map scan, ?_, ?_⟩, letters name, ?_, ?_⟩
  · exact List.forall₂_map_right_iff.mpr (List.forall₂_same.mpr fun piece _ => finds_scan piece)
  · rw [splitWords, ← List.flatMap_def, scan_splitAtChar]
  · rw [letters (normalizeName name), toList_normalizeName, ← map_lowerAscii_filter,
      List.filter_filter, List.map_map, letters]
    simp only [Bool.and_self]
    refine congrArg String.ofList (List.map_congr_left fun c _ => lowerAscii_lowerAscii c)
  · exact fun other alike => normalizeName_of_spelledAlike alike

/-- Capitals that are followed by small letters, and digits of another script. -/
theorem normalizeName_eq_orderIds :
    SpelledAlike "HTTPOrder_٣IDs" "hTTP_oRDER٣ids" ∧
      normalizeName "HTTPOrder_٣IDs" = normalizeName "hTTP_oRDER٣ids" := by
  have alike : SpelledAlike "HTTPOrder_٣IDs" "hTTP_oRDER٣ids" := by decide
  exact ⟨alike, (normalizeName_eq _).2.2.2 _ alike⟩

example : splitWords "HTTPOrder_3IDs" = ["http", "order", "3", "i", "ds"] := by
  decide +kernel

end TacticalDesign
