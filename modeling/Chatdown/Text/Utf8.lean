import Chatdown.Text

/-!
# UTF-8

Bytes are decoded one at a time. The decoder answers each maximal ill-formed part of its input
with one hole, after which it starts afresh; a lossy reading puts U+FFFD into the holes, and a
strict one refuses them.
-/

namespace Chatdown.Utf8

/-- A character whose first bytes have been read: its code so far, the interval that holds the
next byte, and how many bytes are owed after that one. -/
structure Partial where
  code : Nat
  low : UInt8
  high : UInt8
  owed : Nat
  deriving DecidableEq, Repr

/-- What has been decoded, latest first, with `none` for an ill-formed part, and the character
in progress. -/
structure Decoder where
  decoded : List (Option Char)
  pending : Option Partial
  deriving DecidableEq, Repr

namespace Decoder

def fresh : Decoder := ⟨[], none⟩

/-- Reads a byte between characters. -/
def start (decoded : List (Option Char)) (b : UInt8) : Decoder :=
  if b < 0x80 then ⟨some (Char.ofNat b.toNat) :: decoded, none⟩
  else if b < 0xC2 then ⟨none :: decoded, none⟩
  else if b < 0xE0 then ⟨decoded, some ⟨b.toNat - 0xC0, 0x80, 0xBF, 0⟩⟩
  else if b = 0xE0 then ⟨decoded, some ⟨0x0, 0xA0, 0xBF, 1⟩⟩
  else if b = 0xED then ⟨decoded, some ⟨0xD, 0x80, 0x9F, 1⟩⟩
  else if b < 0xF0 then ⟨decoded, some ⟨b.toNat - 0xE0, 0x80, 0xBF, 1⟩⟩
  else if b = 0xF0 then ⟨decoded, some ⟨0, 0x90, 0xBF, 2⟩⟩
  else if b < 0xF4 then ⟨decoded, some ⟨b.toNat - 0xF0, 0x80, 0xBF, 2⟩⟩
  else if b = 0xF4 then ⟨decoded, some ⟨4, 0x80, 0x8F, 2⟩⟩
  else ⟨none :: decoded, none⟩

/-- Reads one byte. A byte that cannot go on with the character in progress ends an ill-formed
part, and is read again as the start of a character. -/
def read (d : Decoder) (b : UInt8) : Decoder :=
  match d.pending with
  | none => start d.decoded b
  | some p =>
    if p.low ≤ b && b ≤ p.high then
      let code := p.code * 64 + (b.toNat - 0x80)
      match p.owed with
      | 0 => ⟨some (Char.ofNat code) :: d.decoded, none⟩
      | owed + 1 => ⟨d.decoded, some ⟨code, 0x80, 0xBF, owed⟩⟩
    else
      start (none :: d.decoded) b

/-- All that was decoded, in reading order; a character in progress is an ill-formed part. -/
def finish (d : Decoder) : List (Option Char) :=
  match d.pending with
  | none => d.decoded.reverse
  | some _ => (none :: d.decoded).reverse

end Decoder

/-- The characters of a byte sequence, with `none` for each maximal ill-formed part. -/
def scan (bytes : List UInt8) : List (Option Char) :=
  (bytes.foldl Decoder.read .fresh).finish

/-- Decodes bytes, with U+FFFD for each maximal ill-formed part. -/
def decodeLossy (bytes : List UInt8) : Text :=
  (scan bytes).map fun c => c.getD '\uFFFD'

/-- Decodes bytes that are well formed throughout. -/
def decode? (bytes : List UInt8) : Option Text :=
  if (scan bytes).contains none then none else some ((scan bytes).filterMap id)

def encode (t : Text) : List UInt8 := t.flatMap String.utf8EncodeChar

end Chatdown.Utf8
