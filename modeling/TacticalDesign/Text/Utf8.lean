/-!
# UTF-8

Bytes of a text, and texts from bytes with the reason why bytes are no text.
-/

namespace TacticalDesign.Text.Utf8

def encodeChar (c : Char) : List UInt8 :=
  let n := c.toNat
  if n < 0x80 then [n.toUInt8]
  else if n < 0x800 then [(0xc0 + n / 0x40).toUInt8, (0x80 + n % 0x40).toUInt8]
  else if n < 0x10000 then
    [(0xe0 + n / 0x1000).toUInt8, (0x80 + n / 0x40 % 0x40).toUInt8, (0x80 + n % 0x40).toUInt8]
  else
    [(0xf0 + n / 0x40000).toUInt8, (0x80 + n / 0x1000 % 0x40).toUInt8,
      (0x80 + n / 0x40 % 0x40).toUInt8, (0x80 + n % 0x40).toUInt8]

def encode (s : List Char) : List UInt8 := s.flatMap encodeChar

inductive Fault where
  | invalidStart
  | invalidContinuation
  | unexpectedEnd
  deriving DecidableEq, Repr

/-- The bytes that cannot be read: where they start, how many they are, and the first of them. -/
structure DecodeError where
  fault : Fault
  place : Nat
  length : Nat
  byte : UInt8
  deriving DecidableEq, Repr

def Fault.message : Fault → String
  | invalidStart => "invalid start byte"
  | invalidContinuation => "invalid continuation byte"
  | unexpectedEnd => "unexpected end of data"

/-- What the first byte announces: how many bytes follow, the limits of the second byte, and the
bits of the character that it holds. -/
structure Lead where
  following : Nat
  low : UInt8
  high : UInt8
  bits : Nat

def lead? (b : UInt8) : Option Lead :=
  let n := b.toNat
  if n < 0x80 then some ⟨0, 0, 0, n⟩
  else if n < 0xc2 then none
  else if n < 0xe0 then some ⟨1, 0x80, 0xbf, n - 0xc0⟩
  else if n = 0xe0 then some ⟨2, 0xa0, 0xbf, 0⟩
  else if n = 0xed then some ⟨2, 0x80, 0x9f, 13⟩
  else if n < 0xf0 then some ⟨2, 0x80, 0xbf, n - 0xe0⟩
  else if n = 0xf0 then some ⟨3, 0x90, 0xbf, 0⟩
  else if n < 0xf4 then some ⟨3, 0x80, 0xbf, n - 0xf0⟩
  else if n = 0xf4 then some ⟨3, 0x80, 0x8f, 4⟩
  else none

/-- Reads the bytes behind a first byte: their bits, or the fault and how many bytes fit. -/
def readFollowing (low high : UInt8) (bits read : Nat) :
    Nat → List UInt8 → Except (Fault × Nat) Nat
  | 0, _ => .ok bits
  | _ + 1, [] => .error (.unexpectedEnd, read)
  | count + 1, b :: rest =>
    if low ≤ b && b ≤ high then
      readFollowing 0x80 0xbf (bits * 0x40 + (b.toNat - 0x80)) (read + 1) count rest
    else .error (.invalidContinuation, read)

def decodeFrom (place : Nat) (bytes : List UInt8) : Except DecodeError (List Char) :=
  match bytes with
  | [] => .ok []
  | b :: rest =>
    match lead? b with
    | none => .error ⟨.invalidStart, place, 1, b⟩
    | some lead =>
      match readFollowing lead.low lead.high lead.bits 1 lead.following rest with
      | .error (fault, read) => .error ⟨fault, place, read, b⟩
      | .ok n =>
        match decodeFrom (place + 1 + lead.following) (rest.drop lead.following) with
        | .error e => .error e
        | .ok chars => .ok (Char.ofNat n :: chars)
termination_by bytes.length
decreasing_by simp only [List.length_cons, List.length_drop]; omega

def decode (bytes : List UInt8) : Except DecodeError (List Char) := decodeFrom 0 bytes

end TacticalDesign.Text.Utf8
