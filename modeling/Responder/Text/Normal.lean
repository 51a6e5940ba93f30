/-
# Responder.Text.Normal -- the composed normal form

Text in composed normal form (NFC) has every character that can be composed
composed, and combining characters in the order of their classes.
-/
import Responder.Text.NormalTable
import Responder.Text.Table

namespace Responder.Text

set_option autoImplicit false

/-- What each character is composed of. -/
def decompositionTable : List ((Nat × Nat) × List Nat) := tableEntries decompositions

/-- The ranges of each combining class. -/
def combiningTable : List ((Nat × Nat) × List Nat) := tableEntries combiningClasses

/-- The characters that are never put together. -/
def neverComposed : Ranges := tableRanges compositionExclusions

/-- The combining class of a code point; zero for most. -/
def combiningClass (n : Nat) : Nat :=
  if n < 0x300 then 0
  else
    match combiningTable.find? fun entry => entry.1.1 ≤ n && n ≤ entry.1.2 with
    | some (_, [k]) => k
    | _ => 0

/-- The parts of a Hangul syllable. -/
def hangulParts (n : Nat) : List Nat :=
  let s := n - 0xAC00
  let tail := s % 28
  [0x1100 + s / 588, 0x1161 + s % 588 / 28] ++ if tail = 0 then [] else [0x11A7 + tail]

/-- The parts of a code point, taken apart at most `depth` times. -/
def decompose : Nat → Nat → List Nat
  | 0, n => [n]
  | depth + 1, n =>
    if n < 0xC0 then [n]
    else if 0xAC00 ≤ n ∧ n ≤ 0xD7A3 then hangulParts n
    else
      match decompositionTable.find? fun entry => entry.1.1 = n with
      | some (_, parts) => parts.flatMap (decompose depth)
      | none => [n]

/-- Inserts a combining character before those of a greater class, moving back
over a list of characters in reverse. -/
def insertByClass (n k : Nat) : List (Nat × Nat) → List (Nat × Nat)
  | [] => [(n, k)]
  | (m, j) :: rest => if k < j then (m, j) :: insertByClass n k rest else (n, k) :: (m, j) :: rest

/-- Code points with their classes, combining characters in order, in reverse. -/
def orderReversed (cs : List Nat) : List (Nat × Nat) :=
  cs.foldl (fun done n =>
    let k := combiningClass n
    if k = 0 then (n, 0) :: done else insertByClass n k done) []

/-- The character that two characters make, if there is one. -/
def composePair (a b : Nat) : Option Nat :=
  if 0x1100 ≤ a ∧ a < 0x1113 ∧ 0x1161 ≤ b ∧ b < 0x1176 then
    some (0xAC00 + ((a - 0x1100) * 21 + (b - 0x1161)) * 28)
  else if 0xAC00 ≤ a ∧ a ≤ 0xD7A3 ∧ (a - 0xAC00) % 28 = 0 ∧ 0x11A7 < b ∧ b < 0x11C3 then
    some (a + (b - 0x11A7))
  else
    (decompositionTable.find? fun entry =>
      entry.2 == [a, b] && !neverComposed.contains entry.1.1).map fun entry => entry.1.1

/-- State of composing: finished text in reverse, the last starter with the
characters kept after it in reverse, and the class of the last of those. -/
structure Composing where
  finished : List Nat
  starter : Option Nat
  kept : List Nat
  lastClass : Nat

/-- Adds one character. -/
def Composing.add (s : Composing) (entry : Nat × Nat) : Composing :=
  let (n, k) := entry
  match s.starter with
  | some a =>
    let blocked := !s.kept.isEmpty && (s.lastClass == 0 || k ≤ s.lastClass)
    match if blocked then none else composePair a n with
    | some c => { s with starter := some c }
    | none =>
      if k = 0 then ⟨s.kept ++ a :: s.finished, some n, [], 0⟩
      else { s with kept := n :: s.kept, lastClass := k }
  | none => if k = 0 then { s with starter := some n } else { s with finished := n :: s.finished }

/-- The composed normal form of a sequence of code points. -/
def composed (cs : List Nat) : List Nat :=
  let ordered := (orderReversed (cs.flatMap (decompose 8))).reverse
  let s := ordered.foldl Composing.add ⟨[], none, [], 0⟩
  (s.kept ++ s.starter.toList ++ s.finished).reverse

end Responder.Text
