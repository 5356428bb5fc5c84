import TacticalDesign.Text.Utf8
/-!
# Texts as bytes

Whatever text is encoded is decoded again, so no two texts have the same bytes.
-/

namespace TacticalDesign.Text.Utf8

variable {n m bits read count : Nat} {low high : UInt8} {rest : List UInt8} {c : Char}

private theorem toNat_byte (h : n < 256) : n.toUInt8.toNat = n := by
  simpa using Nat.mod_eq_of_lt h

private theorem scalar_value (c : Char) :
    c.toNat < 0xd800 ∨ 0xdfff < c.toNat ∧ c.toNat < 0x110000 := c.valid

private theorem readFollowing_cons (above : low.toNat ≤ 0x80 + m % 0x40)
    (below : 0x80 + m % 0x40 ≤ high.toNat) :
    readFollowing low high bits read (count + 1) ((0x80 + m % 0x40).toUInt8 :: rest) =
      readFollowing 0x80 0xbf (bits * 0x40 + m % 0x40) (read + 1) count rest := by
  have byte : (0x80 + m % 0x40).toUInt8.toNat = 0x80 + m % 0x40 := toNat_byte (by omega)
  have inside : (low ≤ (0x80 + m % 0x40).toUInt8 && (0x80 + m % 0x40).toUInt8 ≤ high) = true := by
    simp only [Bool.and_eq_true, decide_eq_true_eq, UInt8.le_iff_toNat_le, byte]
    exact ⟨above, below⟩
  rw [readFollowing, if_pos inside, byte, Nat.add_sub_cancel_left]

private theorem readFollowing_next :
    readFollowing 0x80 0xbf bits read (count + 1) ((0x80 + m % 0x40).toUInt8 :: rest) =
      readFollowing 0x80 0xbf (bits * 0x40 + m % 0x40) (read + 1) count rest := by
  have := Nat.mod_lt m (show 0 < 0x40 by decide)
  exact readFollowing_cons (Nat.le_add_right ..) (show 0x80 + m % 0x40 ≤ 0xbf by omega)

private theorem decodeFrom_cons {place : Nat} {lead : Lead} {b : UInt8} (following : List UInt8)
    (found : lead? b = some lead) (count : following.length = lead.following)
    (value : readFollowing lead.low lead.high lead.bits 1 lead.following (following ++ rest) =
      .ok c.toNat) :
    decodeFrom place (b :: following ++ rest) =
      (decodeFrom (place + (b :: following).length) rest).map (c :: ·) := by
  rw [List.cons_append, decodeFrom]
  simp only [found, value, Char.ofNat_toNat]
  rw [← count, List.drop_left, List.length_cons, Nat.add_right_comm, ← Nat.add_assoc]
  cases decodeFrom (place + following.length + 1) rest <;> rfl

/-! ## First bytes -/

private theorem lead_one (h : n < 0x80) : lead? n.toUInt8 = some ⟨0, 0, 0, n⟩ := by
  simp only [lead?, toNat_byte (n := n) (by omega), if_pos h]

private theorem lead_two (low : 0xc2 ≤ 0xc0 + n) (high : 0xc0 + n < 0xe0) :
    lead? (0xc0 + n).toUInt8 = some ⟨1, 0x80, 0xbf, n⟩ := by
  simp only [lead?, toNat_byte (n := 0xc0 + n) (by omega)]
  rw [if_neg (by omega), if_neg (by omega), if_pos high, Nat.add_sub_cancel_left]

/-- Three bytes start with the upper four bits of the character. The second byte leaves out what
two bytes could say and what is no character. -/
private theorem lead_three (h : n < 0x10) : ∃ low high : UInt8,
    lead? (0xe0 + n).toUInt8 = some ⟨2, low, high, n⟩ ∧
      low.toNat = (if n = 0 then 0xa0 else 0x80) ∧
      high.toNat = (if n = 13 then 0x9f else 0xbf) := by
  simp only [lead?, toNat_byte (n := 0xe0 + n) (by omega)]
  rw [if_neg (by omega), if_neg (by omega), if_neg (by omega)]
  by_cases zero : n = 0
  · subst zero
    exact ⟨_, _, rfl, rfl, rfl⟩
  by_cases last : n = 13
  · subst last
    exact ⟨_, _, rfl, rfl, rfl⟩
  · refine ⟨0x80, 0xbf, ?_, by rw [if_neg zero]; rfl, by rw [if_neg last]; rfl⟩
    rw [if_neg (by omega), if_neg (by omega), if_pos (by omega), Nat.add_sub_cancel_left]

private theorem lead_four (h : n < 5) : ∃ low high : UInt8,
    lead? (0xf0 + n).toUInt8 = some ⟨3, low, high, n⟩ ∧
      low.toNat = (if n = 0 then 0x90 else 0x80) ∧
      high.toNat = (if n = 4 then 0x8f else 0xbf) := by
  have cases : n = 0 ∨ n = 1 ∨ n = 2 ∨ n = 3 ∨ n = 4 := by omega
  rcases cases with rfl | rfl | rfl | rfl | rfl <;> exact ⟨_, _, rfl, rfl, rfl⟩

/-! ## Reading back -/

theorem decodeFrom_encodeChar (c : Char) (place : Nat) (rest : List UInt8) :
    decodeFrom place (encodeChar c ++ rest) =
      (decodeFrom (place + (encodeChar c).length) rest).map (c :: ·) := by
  have scalar := scalar_value c
  unfold encodeChar
  simp only
  split
  · rename_i one
    exact decodeFrom_cons [] (lead_one one) rfl rfl
  split
  · rename_i one two
    refine decodeFrom_cons [_] (lead_two (by omega) (by omega)) rfl ?_
    exact readFollowing_next.trans (congrArg Except.ok (by dsimp only; omega))
  split
  · rename_i one two three
    obtain ⟨low, high, found, low_eq, high_eq⟩ :=
      lead_three (n := c.toNat / 0x1000) (by omega)
    refine decodeFrom_cons [_, _] found rfl ?_
    have above : low.toNat ≤ 0x80 + c.toNat / 0x40 % 0x40 := by split at low_eq <;> omega
    have below : 0x80 + c.toNat / 0x40 % 0x40 ≤ high.toNat := by split at high_eq <;> omega
    exact (readFollowing_cons above below).trans
      (readFollowing_next.trans (congrArg Except.ok (by dsimp only; omega)))
  · rename_i one two three
    obtain ⟨low, high, found, low_eq, high_eq⟩ :=
      lead_four (n := c.toNat / 0x40000) (by omega)
    refine decodeFrom_cons [_, _, _] found rfl ?_
    have above : low.toNat ≤ 0x80 + c.toNat / 0x1000 % 0x40 := by split at low_eq <;> omega
    have below : 0x80 + c.toNat / 0x1000 % 0x40 ≤ high.toNat := by split at high_eq <;> omega
    exact (readFollowing_cons above below).trans
      (readFollowing_next.trans
        (readFollowing_next.trans (congrArg Except.ok (by dsimp only; omega))))

theorem decodeFrom_encode (s : List Char) (place : Nat) : decodeFrom place (encode s) = .ok s := by
  induction s generalizing place with
  | nil => simp [encode, decodeFrom]
  | cons c s ih =>
      rw [encode, List.flatMap_cons, decodeFrom_encodeChar]
      exact (congrArg (Except.map (c :: ·)) (ih _)).trans rfl

theorem decode_encode (s : List Char) : decode (encode s) = .ok s := decodeFrom_encode s 0

theorem encode_injective : Function.Injective encode := by
  intro s t h
  have read := decode_encode s
  rw [h, decode_encode] at read
  exact (Except.ok.inj read).symm

end TacticalDesign.Text.Utf8
