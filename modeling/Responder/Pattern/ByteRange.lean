/-
# Responder.Pattern.ByteRange -- sets of characters as sequences of bytes

The encodings of the characters of a set, as sequences of ranges of bytes: a
sequence stands for the characters whose bytes lie in its ranges one by one.
A range of code points is cut where the encoding changes its length and around
blocks that share their leading bytes, so that every piece is one sequence.
-/
import Responder.Numeral.Power
import Responder.Pattern.CharSet

namespace Responder.Pattern

set_option autoImplicit false

open Text (Ranges)

/-- A sequence of ranges of bytes, ends included. -/
abbrev ByteSequence := List (Nat × Nat)

namespace ByteSequence

/-- The byte in front of `k` others in the encoding of a code point in `k + 1` bytes. -/
def leadByte (k n : Nat) : Nat :=
  match k with
  | 0 => n
  | 1 => 0xC0 + n / 64
  | 2 => 0xE0 + n / 4096
  | _ => 0xF0 + n / 262144

/-- The last `k` bytes of the encoding of a code point. -/
def trailBytes (n : Nat) : Nat → List Nat
  | 0 => []
  | k + 1 => (0x80 + n / 64 ^ k % 64) :: trailBytes n k

/-- The encoding of a code point in `k + 1` bytes. -/
def encode (k n : Nat) : List Nat := leadByte k n :: trailBytes n k

/-- The pieces of a range of code points around blocks of `block` and more code
points, on as many levels as `levels` says. -/
def pieces (low high block : Nat) : Nat → Ranges
  | 0 => [(low, high)]
  | levels + 1 =>
    if low / block = high / block then [(low, high)]
    else
      let first := (low + block - 1) / block * block
      let next := (high + 1) / block * block
      (if low < first then [(low, first - 1)] else []) ++
        (if first < next then pieces first (next - 1) (64 * block) levels else []) ++
        (if next ≤ high then [(next, high)] else [])

/-- The sequences of a range of code points that take `k + 1` bytes each. -/
def ofRange (k low high : Nat) : List ByteSequence :=
  if high < low then []
  else (pieces low high 64 k).map fun (a, b) => (encode k a).zip (encode k b)

/-- The sequences of a set, in increasing order. -/
def ofSet (s : CharSet) : List ByteSequence :=
  s.ranges.flatMap fun (low, high) =>
    let within (k first last : Nat) : List ByteSequence :=
      ofRange k (max low first) (min high last)
    within 0 0 0x7F ++ within 1 0x80 0x7FF ++ within 2 0x800 0xFFFF ++ within 3 0x10000 0x10FFFF

/-- The number of ranges that two sequences have in common at their start. -/
def common : ByteSequence → ByteSequence → Nat
  | x :: xs, y :: ys => if x = y then common xs ys + 1 else 0
  | _, _ => 0

/-- The number of different nonempty starts of sequences in order, after one of them. -/
def startsAfter (before : ByteSequence) : List ByteSequence → Nat
  | [] => 0
  | next :: rest => next.length - common before next + startsAfter next rest

/-- The groups of sequences that start with the same range, without that range. -/
def groups : List ByteSequence → List ((Nat × Nat) × List ByteSequence)
  | [] => []
  | [] :: rest => groups rest
  | (range :: after) :: rest =>
    match groups rest with
    | (next, tails) :: more =>
      if next = range then (range, after :: tails) :: more
      else (range, [after]) :: (next, tails) :: more
    | [] => [(range, [after])]

/-- The sets of ends that sequences have behind their starts, those of at most
`depth` ranges, with repetitions. -/
def endings : Nat → List ByteSequence → List (List ByteSequence)
  | 0, _ => []
  | depth + 1, sequences =>
    sequences :: (groups sequences).flatMap fun (_, tails) =>
      if tails.all (· == []) then [] else endings depth tails

end ByteSequence

end Responder.Pattern
