/-
# Responder.Pattern.CharSet -- sets of characters

A set is kept as its edges: the code points, in increasing order, at which
membership changes.  A boolean combination passes once over the edges of both
sets (`sweep`, `holds_sweep`).  Closing a set under case adds to it every
character that differs from a member only in case.  Surrogates are no
characters and stand in no set.
-/
import Responder.Pattern.CaseFold
import Responder.Text.Table

namespace Responder.Pattern

set_option autoImplicit false

open Text (Ranges tableRanges tableWords hexNumber)

/-- A set of code points, as the points where membership changes. -/
structure CharSet where
  edges : List Nat
  deriving DecidableEq

namespace CharSet

/-! ## Membership -/

/-- Whether a code point is held, when `inside` tells whether those before the
first edge are. -/
def holds (inside : Bool) : List Nat → Nat → Bool
  | [], _ => inside
  | edge :: rest, n => if n < edge then inside else holds (!inside) rest n

/-- Whether a set holds a code point. -/
def contains (s : CharSet) (n : Nat) : Bool := holds false s.edges n

/-! ## Boolean combinations -/

/-- An edge in front of others, if membership changes there. -/
def edgeIf (changes : Bool) (edge : Nat) (rest : List Nat) : List Nat :=
  if changes then edge :: rest else rest

/-- The edges of a combination of two sets, from the edges that lie ahead in
each; `a` and `b` tell whether the sets hold the code points before. -/
def sweep (f : Bool → Bool → Bool) (a b : Bool) : List Nat → List Nat → List Nat
  | [], [] => []
  | x :: xs, [] => edgeIf (f a b != f (!a) b) x (sweep f (!a) b xs [])
  | [], y :: ys => edgeIf (f a b != f a (!b)) y (sweep f a (!b) [] ys)
  | x :: xs, y :: ys =>
    if x < y then edgeIf (f a b != f (!a) b) x (sweep f (!a) b xs (y :: ys))
    else if y < x then edgeIf (f a b != f a (!b)) y (sweep f a (!b) (x :: xs) ys)
    else edgeIf (f a b != f (!a) (!b)) x (sweep f (!a) (!b) xs ys)
termination_by xs ys => xs.length + ys.length

theorem holds_of_lt {inside : Bool} {edges : List Nat} {n : Nat} (h : ∀ e ∈ edges, n < e) :
    holds inside edges n = inside := by
  cases edges with
  | nil => rfl
  | cons e rest => simp [holds, h e (by simp)]

theorem holds_tail_of_lt (inside : Bool) {x n : Nat} {xs : List Nat}
    (sorted : (x :: xs).Pairwise (· < ·)) (lt : n < x) : holds inside xs n = inside :=
  holds_of_lt fun _ he => Nat.lt_trans lt (List.rel_of_pairwise_cons sorted he)

/-- An edge is kept exactly where it changes something, so membership behind it
is that of the rest. -/
theorem holds_edgeIf (before after : Bool) (x n : Nat) (rest : List Nat) :
    holds before (edgeIf (before != after) x rest) n =
      if n < x ∧ before ≠ after then before else holds after rest n := by
  by_cases lt : n < x <;> cases before <;> cases after <;> simp [edgeIf, holds, lt]

/-- Membership in a combination is the combination of memberships. -/
theorem holds_sweep (f : Bool → Bool → Bool) (a b : Bool) (xs ys : List Nat) (n : Nat)
    (hx : xs.Pairwise (· < ·)) (hy : ys.Pairwise (· < ·)) :
    holds (f a b) (sweep f a b xs ys) n = f (holds a xs n) (holds b ys n) := by
  fun_induction sweep f a b xs ys with
  | case1 => rfl
  | case2 a b x xs ih =>
    rw [holds_edgeIf, ih hx.of_cons hy]
    by_cases lt : n < x
    · have tail := holds_tail_of_lt (!a) hx lt
      by_cases same : f a b = f (!a) b <;> simp [holds, lt, tail, same]
    · simp [holds, lt]
  | case3 a b y ys ih =>
    rw [holds_edgeIf, ih hx hy.of_cons]
    by_cases lt : n < y
    · have tail := holds_tail_of_lt (!b) hy lt
      by_cases same : f a b = f a (!b) <;> simp [holds, lt, tail, same]
    · simp [holds, lt]
  | case4 a b x xs y ys xy ih =>
    rw [holds_edgeIf, ih hx.of_cons hy]
    by_cases lt : n < x
    · have tail := holds_tail_of_lt (!a) hx lt
      have other : n < y := Nat.lt_trans lt xy
      by_cases same : f a b = f (!a) b <;> simp [holds, lt, other, tail, same]
    · simp [holds, lt]
  | case5 a b x xs y ys xy yx ih =>
    rw [holds_edgeIf, ih hx hy.of_cons]
    by_cases lt : n < y
    · have tail := holds_tail_of_lt (!b) hy lt
      have other : n < x := Nat.lt_trans lt yx
      by_cases same : f a b = f a (!b) <;> simp [holds, lt, other, tail, same]
    · simp [holds, lt]
  | case6 a b x xs y ys xy yx ih =>
    obtain rfl : x = y := by omega
    rw [holds_edgeIf, ih hx.of_cons hy.of_cons]
    by_cases lt : n < x
    · have left := holds_tail_of_lt (!a) hx lt
      have right := holds_tail_of_lt (!b) hy lt
      by_cases same : f a b = f (!a) (!b) <;> simp [holds, lt, left, right, same]
    · simp [holds, lt]

/-- The code points that either set holds. -/
def union (s t : CharSet) : CharSet := ⟨sweep (· || ·) false false s.edges t.edges⟩

/-- The code points that both sets hold. -/
def inter (s t : CharSet) : CharSet := ⟨sweep (· && ·) false false s.edges t.edges⟩

/-- The code points of the first set that the second does not hold. -/
def diff (s t : CharSet) : CharSet := ⟨sweep (fun a b => a && !b) false false s.edges t.edges⟩

/-- The code points that one set holds and the other does not. -/
def symDiff (s t : CharSet) : CharSet := ⟨sweep (· != ·) false false s.edges t.edges⟩

/-! ## Ranges -/

/-- The set that ranges in increasing order make up. -/
def ofRanges (r : Ranges) : CharSet :=
  ⟨r.foldr (fun (low, high) edges =>
    match edges with
    | next :: more => if next = high + 1 then low :: more else low :: (high + 1) :: edges
    | [] => [low, high + 1]) []⟩

/-- The set that a table lists. -/
def ofTable (table : String) : CharSet := ofRanges (tableRanges table)

/-- The ranges between edges. -/
def rangesOf : List Nat → Ranges
  | low :: next :: rest => (low, next - 1) :: rangesOf rest
  | _ => []

/-- The ranges that make up a set. -/
def ranges (s : CharSet) : Ranges := rangesOf s.edges

/-- The empty set. -/
def empty : CharSet := ⟨[]⟩

/-- The set of all characters. -/
def all : CharSet := ofRanges [(0, 0xD7FF), (0xE000, 0x10FFFF)]

/-- The characters from one to another. -/
def between (low high : Char) : CharSet := (ofRanges [(low.toNat, high.toNat)]).inter all

/-- The set of one character. -/
def single (c : Char) : CharSet := between c c

/-- The union of several sets. -/
def unionAll (sets : List CharSet) : CharSet := sets.foldl union empty

/-- The characters that a set does not hold. -/
def compl (s : CharSet) : CharSet := all.diff s

/-- The complement, if that is asked. -/
def complIf (negated : Bool) (s : CharSet) : CharSet := if negated then s.compl else s

/-- The only character of a set. -/
def only? (s : CharSet) : Option Char :=
  match s.edges with
  | [low, next] => if next = low + 1 then some (Char.ofNat low) else none
  | _ => none

/-- Whether all members are ASCII characters. -/
def isAscii (s : CharSet) : Bool := s.edges.all (· ≤ 128)

/-! ## Case -/

/-- The sets of code points that differ only in case. -/
def caseOrbitTable : List (List Nat) :=
  (tableWords caseOrbits).map fun word => (word.splitOn '-').map hexNumber

/-- The sets of ASCII letters that differ only in case. -/
def asciiOrbitTable : List (List Nat) := (List.range 26).map fun n => [65 + n, 97 + n]

/-- The least set above one that holds all or none of each orbit. -/
def close (orbits : List (List Nat)) (s : CharSet) : CharSet :=
  let added := (orbits.filter fun orbit => orbit.any s.contains).flatten
  s.union (ofRanges ((added.mergeSort (· ≤ ·)).map fun n => (n, n)))

/-- A set closed under differences of case. -/
def anyCase (s : CharSet) : CharSet := s.close caseOrbitTable

/-- A set closed under differences of case between ASCII letters. -/
def anyAsciiCase (s : CharSet) : CharSet := s.close asciiOrbitTable

end CharSet

end Responder.Pattern
