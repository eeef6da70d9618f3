import DialogGrid.Numeral

/-!
# UTF-8

Texts as bytes. Decoding accepts exactly the well-formed sequences: the shortest form of every
character, and no surrogates. Where it fails it tells the offset of the faulty sequence and how
many of its bytes were in order up to the fault, or that the bytes end too early. Lossy decoding
puts a replacement character there and goes on after it.
-/

namespace DialogGrid.Utf8

/-- The bytes of a text. -/
def encode (t : Text) : List UInt8 := t.flatMap String.utf8EncodeChar

/-- A faulty sequence begins at `offset`. It has `size` bytes, or it is cut off by the end. -/
structure Fault where
  offset : Nat
  size? : Option Nat
  deriving DecidableEq, Repr

def Fault.message (f : Fault) : Text :=
  match f.size? with
  | some size =>
    lit "invalid utf-8 sequence of " ++ Text.ofNat size ++ lit " bytes from index " ++ Text.ofNat f.offset
  | none => lit "incomplete utf-8 byte sequence from index " ++ Text.ofNat f.offset

/-- What a first byte announces: its share of the code, how many bytes follow, and the range of
the first of those. -/
structure Lead where
  share : Nat
  following : Nat
  low : Nat := 0x80
  high : Nat := 0xBF

/-- The first bytes of the well-formed sequences. -/
def lead? (byte : Nat) : Option Lead :=
  if byte < 0x80 then some ⟨byte, 0, 0x80, 0xBF⟩
  else if byte < 0xC2 then none
  else if byte < 0xE0 then some ⟨byte - 0xC0, 1, 0x80, 0xBF⟩
  else if byte = 0xE0 then some ⟨0, 2, 0xA0, 0xBF⟩
  else if byte = 0xED then some ⟨0xD, 2, 0x80, 0x9F⟩
  else if byte < 0xF0 then some ⟨byte - 0xE0, 2, 0x80, 0xBF⟩
  else if byte = 0xF0 then some ⟨0, 3, 0x90, 0xBF⟩
  else if byte < 0xF4 then some ⟨byte - 0xF0, 3, 0x80, 0xBF⟩
  else if byte = 0xF4 then some ⟨4, 3, 0x80, 0x8F⟩
  else none

/-- Reads the following bytes of a sequence of which `size` bytes were read. The first of them
must lie between `low` and `high`. -/
def follow (code size low high : Nat) : Nat → List UInt8 → Except (Option Nat) (Nat × List UInt8)
  | 0, bytes => .ok (code, bytes)
  | _ + 1, [] => .error none
  | more + 1, byte :: rest =>
    if low ≤ byte.toNat ∧ byte.toNat ≤ high then
      follow (code * 64 + byte.toNat % 64) (size + 1) 0x80 0xBF more rest
    else .error (some size)

theorem follow_length_le {code size low high more : Nat} {bytes : List UInt8} {result : Nat × List UInt8}
    (h : follow code size low high more bytes = .ok result) : result.2.length ≤ bytes.length := by
  induction more generalizing code size low high bytes with
  | zero => simp only [follow, Except.ok.injEq] at h; simp [← h]
  | succ more ih =>
    cases bytes with
    | nil => simp [follow] at h
    | cons byte rest =>
      unfold follow at h
      split at h
      · exact Nat.le_succ_of_le (ih h)
      · simp at h

/-- Reads the character at the beginning. -/
def character (first : UInt8) (rest : List UInt8) : Except (Option Nat) (Nat × List UInt8) :=
  match lead? first.toNat with
  | none => .error (some 1)
  | some lead => follow lead.share 1 lead.low lead.high lead.following rest

theorem character_length_le {first : UInt8} {rest : List UInt8} {result : Nat × List UInt8}
    (h : character first rest = .ok result) : result.2.length ≤ rest.length := by
  unfold character at h
  split at h
  · simp at h
  · exact follow_length_le h

/-- The text that bytes from `offset` on encode. -/
def decodeFrom (offset : Nat) : List UInt8 → Except Fault Text
  | [] => .ok []
  | first :: rest =>
    match _h : character first rest with
    | .error size? => .error ⟨offset, size?⟩
    | .ok (code, after) =>
      (decodeFrom (offset + (rest.length + 1 - after.length)) after).map (Char.ofNat code :: ·)
termination_by bytes => bytes.length
decreasing_by
  have := character_length_le _h
  simp only at this
  simp only [List.length_cons]
  omega

/-- The text that bytes encode. -/
def decode (bytes : List UInt8) : Except Fault Text := decodeFrom 0 bytes

/-- The text that bytes encode, with a replacement character for every faulty sequence. The first
`skipped` bytes belong to what was read before. -/
def decodeLossyFrom (skipped : Nat) : List UInt8 → Text
  | [] => []
  | first :: rest =>
    if 0 < skipped then decodeLossyFrom (skipped - 1) rest
    else
      match character first rest with
      | .ok (code, after) => Char.ofNat code :: decodeLossyFrom (rest.length - after.length) rest
      | .error (some size) => '\uFFFD' :: decodeLossyFrom (size - 1) rest
      | .error none => ['\uFFFD']

/-- The text that bytes encode, with a replacement character for every faulty sequence. -/
def decodeLossy (bytes : List UInt8) : Text := decodeLossyFrom 0 bytes

end DialogGrid.Utf8
