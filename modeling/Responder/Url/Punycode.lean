/-
# Responder.Url.Punycode -- labels of domain names in ASCII

The encoding of RFC 3492: the ASCII characters of a label, then where each
other character goes, in the order of code points, as numbers of variable
length whose thresholds adapt as the text goes on.
-/

namespace Responder.Url.Punycode

set_option autoImplicit false

/-- The character of a digit below 36. -/
def digitChar (d : Nat) : Char := Char.ofNat (if d < 26 then 97 + d else 22 + d)

/-- The digit that a character shows. -/
def digitValue? (c : Char) : Option Nat :=
  let n := c.toNat
  if 97 ≤ n ∧ n ≤ 122 then some (n - 97)
  else if 65 ≤ n ∧ n ≤ 90 then some (n - 65)
  else if 48 ≤ n ∧ n ≤ 57 then some (n - 22)
  else none

/-- The threshold of the digit at weight `k`. -/
def threshold (k bias : Nat) : Nat := if k ≤ bias then 1 else if bias + 26 ≤ k then 26 else k - bias

theorem threshold_pos (k bias : Nat) : 1 ≤ threshold k bias := by
  unfold threshold
  split
  · omega
  · split <;> omega

/-- Divides a delta down to what the bias formula takes, adding up the weights. -/
def settle (k delta : Nat) : Nat :=
  if _h : 455 < delta then settle (k + 36) (delta / 35) else k + 36 * delta / (delta + 38)
termination_by delta

/-- The bias after a delta, with the number of characters placed by then. -/
def adapt (delta count : Nat) (first : Bool) : Nat :=
  let d := if first then delta / 700 else delta / 2
  settle 0 (d + d / count)

/-- The digits of a number under a bias, least significant first. -/
def writeNumber (bias k q : Nat) : List Char :=
  let t := threshold k bias
  if _h : q < t then [digitChar q]
  else digitChar (t + (q - t) % (36 - t)) :: writeNumber bias (k + 36) ((q - t) / (36 - t))
termination_by q
decreasing_by
  have pos := threshold_pos k bias
  have : (q - threshold k bias) / (36 - threshold k bias) ≤ q - threshold k bias := Nat.div_le_self _ _
  omega

/-- State of encoding: the delta so far, the bias, the characters placed, and the output. -/
structure Encoding where
  delta : Nat
  bias : Nat
  placed : Nat
  output : List Char

/-- Goes past one character of the text while placing those equal to `n`. -/
def Encoding.pass (basic n : Nat) (s : Encoding) (c : Nat) : Encoding :=
  if c < n then { s with delta := s.delta + 1 }
  else if c = n then
    { delta := 0
      bias := adapt s.delta (s.placed + 1) (s.placed == basic)
      placed := s.placed + 1
      output := s.output ++ writeNumber s.bias 36 s.delta }
  else s

/-- Places the code points of a list in increasing order, from `n` on. -/
def Encoding.place (basic : Nat) (text : List Nat) : Nat → List Nat → Encoding → Encoding
  | _, [], s => s
  | n, m :: rest, s =>
    let begun := { s with delta := s.delta + (m - n) * (s.placed + 1) }
    let s := text.foldl (Encoding.pass basic m) begun
    Encoding.place basic text (m + 1) rest { s with delta := s.delta + 1 }

/-- The encoding of a label. -/
def encode (text : List Nat) : List Char :=
  let basic := (text.filter (· < 128)).map Char.ofNat
  let others := ((text.filter (128 ≤ ·)).mergeSort (· ≤ ·)).eraseDups
  let start := if basic.isEmpty then [] else basic ++ ['-']
  (Encoding.place basic.length text 128 others ⟨0, 72, basic.length, start⟩).output

/-- State of decoding: the text so far, the last code point and place, the bias,
and the number being read: its value, the weight of the next digit, and that
digit's position. -/
structure Decoding where
  text : List Nat
  n : Nat
  i : Nat
  bias : Nat
  value : Nat
  weight : Nat
  k : Nat
  midNumber : Bool

/-- Reads one digit. -/
def Decoding.step (s : Decoding) (c : Char) : Option Decoding := do
  let d ← digitValue? c
  let value := s.value + d * s.weight
  let t := threshold s.k s.bias
  if d < t then
    let count := s.text.length + 1
    let place := s.i + value
    let n := s.n + place / count
    let i := place % count
    if 0x10FFFF < n then none
    else
      some { text := s.text.take i ++ n :: s.text.drop i
             n
             i := i + 1
             bias := adapt value count (s.i == 0)
             value := 0
             weight := 1
             k := 36
             midNumber := false }
  else some { s with value, weight := s.weight * (36 - t), k := s.k + 36, midNumber := true }

/-- The ASCII characters and the digits of an encoded label. -/
def splitLabel (cs : List Char) : List Char × List Char :=
  let digits := (cs.reverse.takeWhile (· != '-')).reverse
  if digits.length = cs.length then ([], cs)
  else (cs.take (cs.length - digits.length - 1), digits)

/-- The label that a text encodes; an encoded label is all ASCII. -/
def decode? (cs : List Char) : Option (List Nat) := do
  let (basic, digits) := splitLabel cs
  if basic.any (128 ≤ ·.toNat) then none
  let s ← digits.foldlM Decoding.step
    ⟨basic.map Char.toNat, 128, 0, 72, 0, 1, 36, false⟩
  if s.midNumber then none else some s.text

end Responder.Url.Punycode
