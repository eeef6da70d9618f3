import DialogGrid.Escape
import DialogGrid.Utf8

/-!
# Raw text

The words, scripts and output of programs are bytes that need not be UTF-8. A raw text holds one
character for each byte, so that such bytes can be compared with literals and taken apart as texts
are. Encoding a text to raw text and decoding it gives the text again.
-/

namespace DialogGrid

/-- Text in which every character stands for a byte. -/
abbrev Raw := List Char

namespace Raw

def ofBytes (bytes : List UInt8) : Raw := bytes.map fun b => Char.ofNat b.toNat

def bytes (r : Raw) : List UInt8 := r.map fun c => c.toNat.toUInt8

def ofText (t : Text) : Raw := ofBytes (Utf8.encode t)

/-- The text that is meant, with replacement characters where it is not well formed. -/
def text (r : Raw) : Text := Utf8.decodeLossy r.bytes

/-- The character that stands for a number modulo 256. -/
def byte (n : Nat) : Char := Char.ofNat (n % 256)

/-- Whether a text is another one or comes before it in the order of their bytes. -/
def isAtMost : Raw → Raw → Bool
  | [], _ => true
  | _ :: _, [] => false
  | a :: r, b :: t => a.toNat < b.toNat || (a = b && isAtMost r t)

/-- The number that text at the beginning writes in a base below 17, at most `most` digits of it,
how many digits that are, and what follows them. -/
def digits (base : Nat) : Nat → Nat → Raw → Nat × Nat × Raw
  | 0, value, r => (value, 0, r)
  | _ + 1, value, [] => (value, 0, [])
  | most + 1, value, c :: rest =>
    match Escape.hexDigit? c with
    | some d =>
      if d < base then
        let (value, count, rest) := digits base most (base * value + d) rest
        (value, count + 1, rest)
      else (value, 0, c :: rest)
    | none => (value, 0, c :: rest)

end Raw

end DialogGrid
