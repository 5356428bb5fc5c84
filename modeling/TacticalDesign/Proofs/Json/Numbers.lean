import TacticalDesign.Proofs.Json.Texts
import TacticalDesign.Proofs.Number.Shortest
/-!
# Numbers in documents

The reader takes a numeral up to its last character, where no numeral could go on behind it. A whole
number is read back as it is, and so is a float.
-/

namespace TacticalDesign

namespace Numeral

def parts (n : Numeral) : Json.Parser.NumberText where
  negative := n.negative
  whole := n.whole
  fraction := if n.fraction = [] then none else some n.fraction
  exponent := n.power.map fun (negative, digits) =>
    let value : Int := Number.digitsValue digits
    if negative then -value else value

end Numeral

namespace Json.Parser

def Stops (t : List Char) : Prop :=
  ∀ c ∈ t.head?, Number.isDigit c = false ∧ c ≠ '.' ∧ c ≠ 'e' ∧ c ≠ 'E'

variable {n : Numeral} {ds t : List Char}

theorem takeWhile_digits (digits : ∀ c ∈ ds, isDigit c = true)
    (stop : ∀ c ∈ t.head?, isDigit c = false) :
    (ds ++ t).takeWhile isDigit = ds ∧ (ds ++ t).dropWhile isDigit = t := by
  rw [List.takeWhile_append_of_pos digits, List.dropWhile_append_of_pos digits]
  cases t with
  | nil => simp
  | cons c rest =>
      simp [stop c rfl]

theorem takeExponent_powerChars (proper : n.Proper) (stops : Stops t) :
    takeExponent (n.powerChars ++ t) = (n.parts.exponent, t) := by
  unfold Numeral.powerChars Numeral.parts
  cases hp : n.power with
  | none =>
      cases t with
      | nil => rfl
      | cons c rest =>
          have stopped := stops c rfl
          simp [takeExponent, stopped.2.2.1, stopped.2.2.2]
  | some power =>
      obtain ⟨negative, digits⟩ := power
      obtain ⟨nonempty, digits_only⟩ := proper.power negative digits hp
      obtain ⟨taken, left⟩ := takeWhile_digits digits_only fun c hc => (stops c hc).1
      cases negative <;> simp [takeExponent, taken, left, nonempty]

theorem takeFraction_fractionChars (proper : n.Proper) {rest : List Char}
    (stop : ∀ c ∈ rest.head?, Number.isDigit c = false ∧ c ≠ '.') :
    takeFraction (n.fractionChars ++ rest) = (n.parts.fraction, rest) := by
  have digits := proper.fraction
  unfold Numeral.fractionChars Numeral.parts
  cases hf : n.fraction with
  | nil =>
      cases rest with
      | nil => rfl
      | cons c rest =>
          have no_point := (stop c rfl).2
          simp only [List.nil_append, if_true]
          rw [takeFraction]
          exact fun r e => no_point (List.cons.inj e).1
  | cons d ds =>
      rw [hf] at digits
      obtain ⟨taken, left⟩ := takeWhile_digits digits fun c hc => (stop c hc).1
      rw [List.cons_append] at taken left
      simp [takeFraction, taken, left]

theorem head?_fractionChars {rest : List Char} (stop : ∀ c ∈ rest.head?, isDigit c = false) :
    ∀ c ∈ (n.fractionChars ++ rest).head?, isDigit c = false := by
  unfold Numeral.fractionChars
  split
  · exact stop
  · rintro c ⟨⟩
    rfl

theorem head?_powerChars (stops : Stops t) :
    ∀ c ∈ (n.powerChars ++ t).head?, isDigit c = false ∧ c ≠ '.' := by
  unfold Numeral.powerChars
  split
  · exact fun c hc => ⟨(stops c hc).1, (stops c hc).2.1⟩
  · rintro c ⟨⟩
    exact ⟨rfl, by decide⟩

theorem takeMinus_chars (whole : AreWhole n.whole) (t : List Char) :
    takeMinus (n.chars ++ t) = (n.negative, n.unsigned ++ t) := by
  obtain ⟨d, ds, hw⟩ := List.exists_cons_of_ne_nil whole.nonempty
  have no_minus : d ≠ '-' := ne_of_isDigit (whole.digits d (hw ▸ List.mem_cons_self)) rfl
  unfold Numeral.chars
  cases n.negative with
  | true => rfl
  | false =>
      have front : n.unsigned ++ t = d :: (ds ++ (n.fractionChars ++ n.powerChars) ++ t) := by
        simp [Numeral.unsigned, hw]
      rw [if_neg Bool.false_ne_true, front, takeMinus]
      exact fun rest e => no_minus (List.cons.inj e).1

theorem wholeDigits_append (whole : AreWhole ds) (stop : ∀ c ∈ t.head?, isDigit c = false) :
    wholeDigits (ds ++ t) = ds := by
  obtain ⟨taken, -⟩ := takeWhile_digits whole.digits stop
  obtain ⟨d, rest, hds⟩ := List.exists_cons_of_ne_nil whole.nonempty
  rcases whole.lead with zero | lead
  · rw [zero]
    rfl
  · rw [hds] at lead taken ⊢
    rw [wholeDigits, taken]
    exact fun r e => lead (congrArg some (List.cons.inj e).1)

theorem takeNumber_chars (proper : n.Proper) (stops : Stops t) :
    takeNumber (n.chars ++ t) = some (n.parts, t) := by
  have stop := head?_powerChars (n := n) stops
  have whole := wholeDigits_append proper.whole
    (head?_fractionChars (n := n) fun c hc => (stop c hc).1)
  have unsigned : n.unsigned ++ t = n.whole ++ (n.fractionChars ++ (n.powerChars ++ t)) := by
    simp [Numeral.unsigned]
  have nonempty : ¬n.whole.isEmpty = true := by simpa using proper.whole.nonempty
  simp only [takeNumber, takeMinus_chars proper.whole, unsigned, whole, if_neg nonempty,
    List.drop_left, takeFraction_fractionChars proper stop, takeExponent_powerChars proper stops]
  rfl

end Json.Parser

/-! ## Reading numbers back -/

theorem Number.proper_int (i : Int) :
    (Numeral.mk (decide (i < 0)) (Nat.toDigits 10 i.natAbs) [] none).Proper :=
  ⟨areWhole_toDigits _, by simp, by simp⟩

namespace Json.Parser

variable {n : Numeral} {t : List Char} {p : Nat}

theorem heads_of_words : (words.map fun w => w.1.head?).Nodup := by decide

theorem findSome?_isPrefixOf {ws : List (List Char × Json)} {w : List Char × Json} (h : w ∈ ws)
    (heads : (ws.map fun w => w.1.head?).Nodup) (nonempty : ∀ w ∈ ws, w.1 ≠ []) (t : List Char)
    {β : Type} (f : List Char × Json → β) :
    (ws.findSome? fun u => if u.1.isPrefixOf (w.1 ++ t) then some (f u) else none) =
      some (f w) := by
  induction ws with
  | nil => cases h
  | cons u rest ih =>
      rw [List.map_cons, List.nodup_cons] at heads
      rcases List.mem_cons.mp h with rfl | h
      · simp
      · have other : ¬u.1.isPrefixOf (w.1 ++ t) = true := by
          rw [List.isPrefixOf_iff_prefix]
          rintro ⟨r, hr⟩
          refine heads.1 (List.mem_map.mpr ⟨w, h, ?_⟩)
          have same := congrArg List.head? hr
          rw [List.head?_append, List.head?_append] at same
          rwa [Option.or_of_isSome (List.isSome_head?.mpr (nonempty u List.mem_cons_self)),
            Option.or_of_isSome (List.isSome_head?.mpr (nonempty w (List.mem_cons_of_mem u h))),
            eq_comm] at same
        rw [List.findSome?_cons, if_neg other]
        exact ih h heads.2 fun w hw => nonempty w (List.mem_cons_of_mem u hw)

theorem scalar_word {w : List Char × Json} (h : w ∈ words) (t : List Char) (p : Nat) :
    scalar ⟨w.1 ++ t, p⟩ = .ok (w.2, ⟨t, p + w.1.length⟩) := by
  have taken : takeWord ⟨w.1 ++ t, p⟩ = some (w.2, ⟨t, p + w.1.length⟩) := by
    have nonempty : ∀ w ∈ words, w.1 ≠ [] := by
      simp only [words, List.forall_mem_cons]
      decide
    have found := findSome?_isPrefixOf h heads_of_words nonempty t
      fun u => (u.2, (⟨(w.1 ++ t).drop u.1.length, p + u.1.length⟩ : Input))
    rw [List.drop_left] at found
    exact found
  simp only [scalar, taken]

theorem takeWord_chars (whole : AreWhole n.whole) : takeWord ⟨n.chars ++ t, p⟩ = none := by
  obtain ⟨d, ds, hw⟩ := List.exists_cons_of_ne_nil whole.nonempty
  have digit : Number.isDigit d = true := whole.digits d (hw ▸ List.mem_cons_self)
  have no_letter : ∀ c, Number.isDigit c = false → ¬c = d :=
    fun c letter e => ne_of_isDigit digit letter e.symm
  cases hn : n.negative <;>
    simp [takeWord, words, Numeral.chars, Numeral.unsigned, hw, hn, no_letter, Number.isDigit]

theorem scalar_chars (proper : n.Proper) {v : Number} (value : n.parts.value = .ok v)
    (stops : Stops t) :
    scalar ⟨n.chars ++ t, p⟩ = .ok (number v, ⟨t, p + n.chars.length⟩) := by
  simp only [scalar, takeWord_chars proper.whole, takeNumber_chars proper stops, value,
    List.length_append, Nat.add_sub_cancel]

theorem value_parts_of_isReal (real : n.IsReal) :
    n.parts.value = .ok (.float (Number.decimalFloat n.negative (n.whole ++ n.fraction)
      (n.exponent - n.fraction.length))) := by
  have fraction : n.parts.fraction.getD [] = n.fraction := by
    by_cases none : n.fraction = [] <;> simp [Numeral.parts, none]
  have exponent : n.parts.exponent.getD 0 = n.exponent := by
    cases power : n.power <;> simp [Numeral.parts, Numeral.exponent, power]
  unfold NumberText.value
  split
  · rename_i no_fraction no_power
    exfalso
    rcases real with fraction | power
    · simp [Numeral.parts, fraction] at no_fraction
    · exact power (Option.map_eq_none_iff.mp no_power)
  · rw [fraction, exponent]
    rfl

theorem scalar_floatWord (x : Float) (stops : Stops t) :
    scalar ⟨(floatWord x).toList ++ t, p⟩ =
      .ok (float x, ⟨t, p + (floatWord x).toList.length⟩) := by
  unfold floatWord
  cases hx : Number.Parts.ofFloat x with
  | nan =>
      rw [Number.eq_nan hx]
      exact scalar_word (List.mem_of_getElem? (i := 3) rfl) t p
  | infinite negative =>
      rw [Number.eq_infinite hx]
      cases negative with
      | false => exact scalar_word (List.mem_of_getElem? (i := 4) rfl) t p
      | true => exact scalar_word (List.mem_of_getElem? (i := 5) rfl) t p
  | finite negative mantissa exponent =>
      obtain ⟨n, proper, real, written, rfl, writes⟩ := Number.floatText_numeral hx
      have value := value_parts_of_isReal real
      rw [Number.decimalFloat_of_writes hx proper writes] at value
      simp only [written]
      exact scalar_chars proper value stops

theorem scalar_intText {i : Int}
    (short : (Nat.toDigits 10 i.natAbs).length ≤ Number.digitLimit) (stops : Stops t) :
    scalar ⟨(Number.intText i).toList ++ t, p⟩ =
      .ok (int i, ⟨t, p + (Number.intText i).toList.length⟩) := by
  rw [Number.toList_intText]
  refine scalar_chars (Number.proper_int i) ?_ stops
  simp only [Numeral.parts, NumberText.value, if_true, Option.map_none,
    if_neg (Nat.not_lt.mpr short), Number.digitsValue_toDigits, decide_eq_true_eq]
  congr 2
  omega

end Json.Parser

namespace Json

def readBack (x : Float) : Float :=
  match Parser.scalar ⟨(floatWord x).toList, 0⟩ with
  | .ok (number (.float y), _) => y
  | _ => x

/-- Every float is read back as itself. -/
theorem readBack_eq (x : Float) : readBack x = x := by
  have read := Parser.scalar_floatWord (t := []) (p := 0) x fun c hc => by cases hc
  rw [List.append_nil] at read
  simp only [readBack, read, float]

end Json

namespace Number

def reread : Number → Number
  | int i => int i
  | float x => float (Json.readBack x)

@[simp]
theorem reread_eq (n : Number) : n.reread = n := by
  cases n with
  | int i => rfl
  | float x => exact congrArg float (Json.readBack_eq x)

/-- Whether the reader takes a number: a whole one may have too many digits. -/
def IsReadable : Number → Prop
  | int i => (Nat.toDigits 10 i.natAbs).length ≤ digitLimit
  | float _ => True

end Number

theorem Json.Parser.scalar_numberText {n : Number} (readable : n.IsReadable) {t : List Char}
    (stops : Stops t) (p : Nat) :
    scalar ⟨(numberText n).toList ++ t, p⟩ =
      .ok (number n.reread, ⟨t, p + (numberText n).toList.length⟩) := by
  cases n with
  | int i => exact scalar_intText readable stops
  | float x =>
      rw [Number.reread_eq]
      exact scalar_floatWord x stops

/-! ## The characters of a written number -/

namespace Numeral

open Json.Parser

variable {n : Numeral}

theorem plain_of_isDigit {c : Char} (h : Number.isDigit c = true) : IsPlain c := by
  simp only [Number.isDigit, Bool.and_eq_true, decide_eq_true_eq, Char.le_def] at h
  have low : 48 ≤ c.toNat := h.1
  have high : c.toNat ≤ 57 := h.2
  exact Or.inr ⟨by omega, by omega⟩

def marks : List Char := ['-', '+', '.', 'e']

theorem mem_unsigned (proper : n.Proper) {c : Char} (h : c ∈ n.unsigned) :
    Number.isDigit c = true ∨ c ∈ marks := by
  rw [unsigned, List.mem_append, List.mem_append] at h
  rcases h with h | h | h
  · exact Or.inl (proper.whole.digits c h)
  · by_cases empty : n.fraction = []
    · simp [fractionChars, empty] at h
    · rw [n.fractionChars_of_ne_nil empty] at h
      rcases List.mem_cons.mp h with rfl | h
      · exact Or.inr (by decide)
      · exact Or.inl (proper.fraction c h)
  · unfold powerChars at h
    split at h
    · cases h
    · rename_i negative digits hp
      simp only [List.mem_cons] at h
      rcases h with rfl | rfl | h
      · exact Or.inr (by decide)
      · cases negative <;> exact Or.inr (by decide)
      · exact Or.inl ((proper.power negative digits hp).digits c h)

theorem mem_chars (proper : n.Proper) {c : Char} (h : c ∈ n.chars) :
    Number.isDigit c = true ∨ c ∈ marks := by
  unfold chars at h
  split at h
  · rcases List.mem_cons.mp h with rfl | h
    · exact Or.inr (by decide)
    · exact mem_unsigned proper h
  · exact mem_unsigned proper h

theorem plain_of_mem_chars (proper : n.Proper) {c : Char} (h : c ∈ n.chars) : IsPlain c := by
  have plain_marks : ∀ c ∈ marks, IsPlain c := plain_of_all (by decide)
  exact (mem_chars proper h).elim plain_of_isDigit (plain_marks c)

theorem front_chars (whole : AreWhole n.whole) :
    ∃ c rest, n.chars = c :: rest ∧ (Number.isDigit c = true ∨ c = '-') := by
  obtain ⟨d, ds, hw⟩ := List.exists_cons_of_ne_nil whole.nonempty
  have digit := whole.digits d (hw ▸ List.mem_cons_self)
  cases hn : n.negative
  · exact ⟨d, ds ++ (n.fractionChars ++ n.powerChars), by simp [chars, unsigned, hn, hw],
      Or.inl digit⟩
  · exact ⟨'-', n.unsigned, by simp [chars, hn], Or.inr rfl⟩

end Numeral

namespace Json.Parser

theorem numberText_cases (n : Number) :
    (∃ m : Numeral, m.Proper ∧ (numberText n).toList = m.chars) ∨
      numberText n ∈ ["NaN", "Infinity", "-Infinity"] := by
  cases n with
  | int i =>
      exact Or.inl ⟨_, Number.proper_int i, Number.toList_intText i⟩
  | float x =>
      simp only [numberText, floatWord]
      cases hx : Number.Parts.ofFloat x with
      | nan => exact Or.inr (by simp)
      | infinite negative => exact Or.inr (by cases negative <;> simp)
      | finite negative mantissa exponent =>
          obtain ⟨m, proper, -, written, -⟩ := Number.floatText_numeral hx
          exact Or.inl ⟨m, proper, written⟩

theorem plain_of_mem_numberText {n : Number} {c : Char} (h : c ∈ (numberText n).toList) :
    IsPlain c := by
  rcases numberText_cases n with ⟨m, proper, written⟩ | word
  · exact Numeral.plain_of_mem_chars proper (written ▸ h)
  · have words : ∀ w ∈ ["NaN", "Infinity", "-Infinity"],
        w.toList.all (fun c => decide (IsPlain c)) = true := by decide
    exact plain_of_all (words _ word) c h

theorem front_numberText (n : Number) :
    ∃ c rest, (numberText n).toList = c :: rest ∧ isSpace c = false ∧
      c ∉ [']', '\x22', '[', '\x7b'] := by
  rcases numberText_cases n with ⟨m, proper, written⟩ | word
  · obtain ⟨c, rest, front, start⟩ := Numeral.front_chars proper.whole
    refine ⟨c, rest, written.trans front, ?_⟩
    rcases start with digit | rfl
    · have other : ∀ d, Number.isDigit d = false → ¬c = d := fun d => ne_of_isDigit digit
      constructor <;> simp [isSpace, other, Number.isDigit]
    · decide
  · have words : ∀ w ∈ ["NaN", "Infinity", "-Infinity"], ∃ c rest, w.toList = c :: rest ∧
        isSpace c = false ∧ c ∉ [']', '\x22', '[', '\x7b'] := by
      simp only [List.forall_mem_cons]
      exact ⟨⟨_, _, rfl, by decide⟩, ⟨_, _, rfl, by decide⟩, ⟨_, _, rfl, by decide⟩, by simp⟩
    exact words _ word

end Json.Parser

/-! ## Telling numbers apart by their texts -/

namespace Numeral

open Json.Parser

variable {n m : Numeral}

/-- The reader finds the parts of a numeral, so its text determines them. -/
theorem parts_inj (hn : n.Proper) (hm : m.Proper) (h : n.chars = m.chars) : n.parts = m.parts := by
  have stops : Stops [] := fun c hc => by cases hc
  have read := takeNumber_chars hn stops
  rw [h, takeNumber_chars hm stops] at read
  exact (Prod.mk.inj (Option.some.inj read)).1.symm

theorem isReal_iff : n.IsReal ↔ ¬(n.parts.fraction = none ∧ n.parts.exponent = none) := by
  simp only [IsReal, parts, Option.map_eq_none_iff, ite_eq_left_iff, reduceCtorEq, imp_false,
    not_not]
  tauto

end Numeral

namespace Number

theorem text_numeral {n : Number} (finite : n.isFinite = true) :
    ∃ m : Numeral, m.Proper ∧ n.text.toList = m.chars := by
  cases n with
  | int i => exact ⟨_, proper_int i, toList_intText i⟩
  | float x =>
      obtain ⟨negative, mantissa, exponent, hx⟩ := finite_of_isFinite finite
      obtain ⟨m, proper, -, written, -⟩ := floatText_numeral hx
      exact ⟨m, proper, written⟩

theorem intText_inj {i j : Int} (h : intText i = intText j) : i = j := by
  have chars := congrArg String.toList h
  rw [toList_intText, toList_intText] at chars
  have parts := Numeral.parts_inj (proper_int i) (proper_int j) chars
  simp only [Numeral.parts, Json.Parser.NumberText.mk.injEq, decide_eq_decide] at parts
  have size := congrArg digitsValue parts.2.1
  rw [digitsValue_toDigits, digitsValue_toDigits] at size
  omega

/-- A whole number never shares its text with a float: the float has a fraction or a power. -/
theorem intText_ne_floatText (i : Int) {x : Float} (finite : x.isFinite = true) :
    intText i ≠ floatText x := by
  intro same
  obtain ⟨negative, mantissa, exponent, hx⟩ := finite_of_isFinite finite
  obtain ⟨n, proper, real, written, -⟩ := floatText_numeral hx
  have chars := congrArg String.toList same
  rw [toList_intText, written] at chars
  refine Numeral.isReal_iff.mp real ?_
  rw [← Numeral.parts_inj (proper_int i) proper chars]
  exact ⟨rfl, rfl⟩

theorem floatText_inj {x y : Float} (hx : x.isFinite = true) (hy : y.isFinite = true)
    (h : floatText x = floatText y) : x = y := by
  obtain ⟨_, _, _, hx⟩ := finite_of_isFinite hx
  obtain ⟨_, _, _, hy⟩ := finite_of_isFinite hy
  obtain ⟨n, n_proper, n_real, n_written, rfl, n_writes⟩ := floatText_numeral hx
  obtain ⟨m, m_proper, m_real, m_written, rfl, m_writes⟩ := floatText_numeral hy
  have chars := congrArg String.toList h
  rw [n_written, m_written] at chars
  have read := Json.Parser.value_parts_of_isReal n_real
  rw [Numeral.parts_inj n_proper m_proper chars, Json.Parser.value_parts_of_isReal m_real,
    decimalFloat_of_writes hx n_proper n_writes, decimalFloat_of_writes hy m_proper m_writes]
    at read
  exact (Number.float.inj (Except.ok.inj read)).symm

theorem text_inj {a b : Number} (ha : a.isFinite = true) (hb : b.isFinite = true)
    (h : a.text = b.text) : a = b := by
  cases a with
  | int i =>
      cases b with
      | int j => exact congrArg int (intText_inj h)
      | float y => exact absurd h (intText_ne_floatText i hb)
  | float x =>
      cases b with
      | int j => exact absurd h.symm (intText_ne_floatText j ha)
      | float y => exact congrArg float (floatText_inj ha hb h)

end Number

end TacticalDesign
