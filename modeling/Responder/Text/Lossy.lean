/-
# Responder.Text.Lossy -- bytes read as text whatever they are

Bytes are read as UTF-8.  Where they are none, the longest beginning of a
character, or else one byte, is replaced by U+FFFD.
-/

namespace Responder.Text

set_option autoImplicit false

/-- What takes the place of bytes that are no character. -/
def replacement : Char := '\ufffd'

/-- A character of which some bytes have been read. -/
structure Begun where
  /-- The bits so far. -/
  value : Nat
  /-- The number of bytes still to come, less one. -/
  more : Nat
  /-- The least and the greatest next byte. -/
  low : Nat
  high : Nat

/-- What the first byte of a character gives: a character of its own, a
replacement, or the beginning of a longer character. -/
def firstByte (b : Nat) : List Char × Option Begun :=
  if b < 0x80 then ([Char.ofNat b], none)
  else if b < 0xC2 then ([replacement], none)
  else if b < 0xE0 then ([], some ⟨b - 0xC0, 0, 0x80, 0xBF⟩)
  else if b < 0xF0 then
    ([], some ⟨b - 0xE0, 1, if b = 0xE0 then 0xA0 else 0x80, if b = 0xED then 0x9F else 0xBF⟩)
  else if b < 0xF5 then
    ([], some ⟨b - 0xF0, 2, if b = 0xF0 then 0x90 else 0x80, if b = 0xF4 then 0x8F else 0xBF⟩)
  else ([replacement], none)

/-- The characters of bytes, after the beginning of one. -/
def lossyFrom : Option Begun → List UInt8 → List Char
  | none, [] => []
  | some _, [] => [replacement]
  | none, b :: rest =>
    let (chars, begun) := firstByte b.toNat
    chars ++ lossyFrom begun rest
  | some ⟨value, more, low, high⟩, b :: rest =>
    if low ≤ b.toNat ∧ b.toNat ≤ high then
      let value := 64 * value + b.toNat % 64
      match more with
      | 0 => Char.ofNat value :: lossyFrom none rest
      | more + 1 => lossyFrom (some ⟨value, more, 0x80, 0xBF⟩) rest
    else
      let (chars, begun) := firstByte b.toNat
      replacement :: (chars ++ lossyFrom begun rest)

/-- The text of bytes. -/
def lossy (bytes : List UInt8) : String := String.ofList (lossyFrom none bytes)

end Responder.Text
