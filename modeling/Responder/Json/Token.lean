/-
# Responder.Json.Token -- the words of JSON text

`Token.scan` splits a text into punctuation and scalar values and drops the
blanks between them.  A scalar is converted where it stands: escapes in strings
are resolved, and a number becomes the value it denotes.

A number without fraction or exponent is an integer when it fits; every other
number is a binary64 number, computed from the first digits that fit 64 bits by
one conversion and then multiplications or divisions by powers of ten, each
rounded (`Literal.float?`).
-/
import Responder.Json.Basic

namespace Responder.Json

set_option autoImplicit false

/-- The words of JSON text. -/
inductive Token where
  | openArray | closeArray | openObject | closeObject | comma | colon
  | scalar (value : Json)
  | string (value : String)

/-! ## Numbers -/

/-- A number as written. -/
structure Literal where
  negative : Bool
  /-- The digits before the point. -/
  whole : List Numeral.Digit
  /-- The digits after the point, if there is one. -/
  fraction : Option (List Numeral.Digit)
  /-- Whether the exponent is negative, and its digits, if there is one. -/
  exponent : Option (Bool × List Numeral.Digit)

namespace Literal

open Numeral

/-- A significand that grows digit by digit while it fits 64 bits, with the
number of digits it has taken and the digits left over. -/
def takeFitting : Nat → List Digit → Nat × Nat × List Digit
  | n, [] => (n, 0, [])
  | n, d :: ds =>
    if 10 * n + d.val < 2 ^ 64 then
      let (m, count, left) := takeFitting (10 * n + d.val) ds
      (m, count + 1, left)
    else (n, 0, d :: ds)

/-- The power of ten that a number's exponent part asks for: none when it does
not fit 31 bits and a sign. -/
def exponentValue? (exponent : Bool × List Digit) : Option Int :=
  let n := ofDigits exponent.2
  if n < 2 ^ 31 then some (if exponent.1 then -(n : Int) else n) else none

/-- `x * 10 ^ n`: none when that is too large. -/
def scaleUp (x : Binary64) (n : Nat) : Option Binary64 :=
  if n ≤ 308 then do x.mul (← Binary64.ofScientific false 1 n)
  else if x.isZero then some x else none

/-- `x / 10 ^ n`, in steps of `10 ^ 308`. -/
def scaleDown (x : Binary64) (n : Nat) : Option Binary64 :=
  if _h : n ≤ 308 then do x.div (← Binary64.ofScientific false 1 n)
  else if x.isZero then some x
  else do scaleDown (← x.div (← Binary64.ofScientific false 1 308)) (n - 308)
termination_by n

/-- `significand * 10 ^ exponent` as a binary64 number of this sign. -/
def scaled (negative : Bool) (significand : Nat) (exponent : Int) : Option Binary64 := do
  let x ← Binary64.ofNat significand
  let y ← if 0 ≤ exponent then scaleUp x exponent.toNat else scaleDown x (-exponent).toNat
  return { y with negative }

/-- Exponents are kept between the least and the greatest 32-bit integer. -/
def clampExponent (e : Int) : Int := max (-2 ^ 31) (min e (2 ^ 31 - 1))

/-- The number as a binary64 number: none when it is too large. -/
def float? (l : Literal) : Option Binary64 :=
  let (n, _, dropped) := takeFitting 0 l.whole
  let (m, taken, _) := takeFitting n (l.fraction.getD [])
  let scale : Int := dropped.length - taken
  match l.exponent with
  | none => scaled l.negative m scale
  | some exponent =>
    match exponentValue? exponent with
    | some e => scaled l.negative m (clampExponent (scale + e))
    | none => if m ≠ 0 ∧ ¬ exponent.1 then none else some (Binary64.zero l.negative)

/-- The number that a literal denotes: none when it is too large. -/
def number? (l : Literal) : Option Number :=
  match l.fraction, l.exponent with
  | none, none =>
    let n := ofDigits l.whole
    if l.negative then
      if n ≠ 0 ∧ n ≤ 2 ^ 63 then Number.ofInt? (-n) else l.float?.map .float
    else if n < 2 ^ 64 then Number.ofInt? n else l.float?.map .float
  | _, _ => l.float?.map .float

/-- The fraction part at the start of a text: a point and at least one digit. -/
def takeFraction : List Char → Option (Option (List Digit) × List Char)
  | '.' :: cs =>
    match spanDigits cs with
    | ([], _) => none
    | (ds, rest) => some (some ds, rest)
  | cs => some (none, cs)

/-- The digits of an exponent, of which there must be one. -/
def takeExponentDigits (negative : Bool) (cs : List Char) :
    Option (Option (Bool × List Digit) × List Char) :=
  match spanDigits cs with
  | ([], _) => none
  | (ds, rest) => some (some (negative, ds), rest)

/-- The exponent part at the start of a text: `e` or `E`, a sign if there is
one, and at least one digit. -/
def takeExponent : List Char → Option (Option (Bool × List Digit) × List Char)
  | c :: cs =>
    if c = 'e' ∨ c = 'E' then
      match cs with
      | '+' :: r => takeExponentDigits false r
      | '-' :: r => takeExponentDigits true r
      | r => takeExponentDigits false r
    else some (none, c :: cs)
  | [] => some (none, [])

/-- The unsigned part of a number: digits without a needless leading zero, then
fraction and exponent. -/
def takeUnsigned (negative : Bool) (cs : List Char) : Option (Literal × List Char) := do
  let (whole, rest) := spanDigits cs
  match whole with
  | [] => none
  | d :: ds => if d = 0 ∧ ds ≠ [] then none else
    let (fraction, rest) ← takeFraction rest
    let (exponent, rest) ← takeExponent rest
    return (⟨negative, whole, fraction, exponent⟩, rest)

/-- The number at the start of a text. -/
def take : List Char → Option (Literal × List Char)
  | '-' :: cs => takeUnsigned true cs
  | cs => takeUnsigned false cs

end Literal

/-! ## Strings -/

/-- The value of a hexadecimal digit. -/
def hexValue? (c : Char) : Option Nat :=
  let n := c.toNat
  if 48 ≤ n ∧ n < 58 then some (n - 48)
  else if 97 ≤ n ∧ n < 103 then some (n - 87)
  else if 65 ≤ n ∧ n < 71 then some (n - 55)
  else none

/-- The number that four hexadecimal digits denote. -/
def hexWord? (a b c d : Char) : Option Nat := do
  return 4096 * (← hexValue? a) + 256 * (← hexValue? b) + 16 * (← hexValue? c) + (← hexValue? d)

/-- The character that a one-letter escape stands for. -/
def simpleEscape? : Char → Option Char
  | '"' => some '"'
  | '\\' => some '\\'
  | '/' => some '/'
  | 'b' => some '\x08'
  | 'f' => some '\x0c'
  | 'n' => some '\n'
  | 'r' => some '\r'
  | 't' => some '\t'
  | _ => none

/-- The character of a code point that is no surrogate. -/
def charOf? (n : Nat) : Option Char :=
  if h : n.isValidChar then some (Char.ofNatAux n h) else none

/-- The character of a pair of surrogates, high then low. -/
def surrogatePair? (high low : Nat) : Option Char :=
  if 0xD800 ≤ high ∧ high < 0xDC00 ∧ 0xDC00 ≤ low ∧ low < 0xE000 then
    charOf? (0x10000 + 0x400 * (high - 0xD800) + (low - 0xDC00))
  else none

/-- The rest of a string after its opening quote: the characters it denotes,
and the text after its closing quote.  An escaped high surrogate takes the
escape of its low one with it. -/
def takeString : List Char → Option (List Char × List Char)
  | [] => none
  | '"' :: rest => some ([], rest)
  | '\\' :: 'u' :: a :: b :: c :: d :: rest =>
    match hexWord? a b c d with
    | none => none
    | some high =>
      match charOf? high with
      | some ch => (takeString rest).map fun (s, r) => (ch :: s, r)
      | none =>
        match rest with
        | '\\' :: 'u' :: e :: f :: g :: h :: rest =>
          match (hexWord? e f g h).bind (surrogatePair? high) with
          | some ch => (takeString rest).map fun (s, r) => (ch :: s, r)
          | none => none
        | _ => none
  | '\\' :: c :: rest =>
    match simpleEscape? c with
    | some ch => (takeString rest).map fun (s, r) => (ch :: s, r)
    | none => none
  | c :: rest =>
    if c.toNat < 0x20 then none else (takeString rest).map fun (s, r) => (c :: s, r)

/-! ## All words -/

/-- Blanks that may stand between words: space, tab, line feed and carriage return. -/
def isBlank (c : Char) : Bool := c = ' ' || c = '\t' || c = '\n' || c = '\r'

namespace Token

/-- The word at the start of a text that does not start with a blank. -/
def next : List Char → Option (Token × List Char)
  | '[' :: rest => some (.openArray, rest)
  | ']' :: rest => some (.closeArray, rest)
  | '{' :: rest => some (.openObject, rest)
  | '}' :: rest => some (.closeObject, rest)
  | ',' :: rest => some (.comma, rest)
  | ':' :: rest => some (.colon, rest)
  | '"' :: rest => (takeString rest).map fun (s, r) => (.string (String.ofList s), r)
  | 'n' :: 'u' :: 'l' :: 'l' :: rest => some (.scalar .null, rest)
  | 't' :: 'r' :: 'u' :: 'e' :: rest => some (.scalar (.bool true), rest)
  | 'f' :: 'a' :: 'l' :: 's' :: 'e' :: rest => some (.scalar (.bool false), rest)
  | cs => do
    let (literal, rest) ← Literal.take cs
    return (.scalar (.number (← literal.number?)), rest)

end Token

/-! Every word takes at least one character, which is why scanning ends. -/

theorem Literal.takeFraction_length {cs : List Char} {p : Option (List Numeral.Digit) × List Char}
    (h : Literal.takeFraction cs = some p) : p.2.length ≤ cs.length := by
  unfold Literal.takeFraction at h
  split at h
  · rename_i rest
    have size := Numeral.spanDigits_length rest
    split at h
    · cases h
    · rename_i eq
      cases h
      rw [eq] at size
      simp only [List.length_cons] at size ⊢
      omega
  · cases h
    exact Nat.le_refl _

theorem Literal.takeExponentDigits_length {negative : Bool} {cs : List Char}
    {p : Option (Bool × List Numeral.Digit) × List Char}
    (h : Literal.takeExponentDigits negative cs = some p) : p.2.length ≤ cs.length := by
  unfold Literal.takeExponentDigits at h
  have size := Numeral.spanDigits_length cs
  split at h
  · cases h
  · rename_i eq
    cases h
    rw [eq] at size
    simp only at size ⊢
    omega

theorem Literal.takeExponent_length {cs : List Char}
    {p : Option (Bool × List Numeral.Digit) × List Char}
    (h : Literal.takeExponent cs = some p) : p.2.length ≤ cs.length := by
  unfold Literal.takeExponent at h
  split at h
  · split at h
    · split at h <;> have := Literal.takeExponentDigits_length h <;>
        simp only [List.length_cons] at this ⊢ <;> omega
    · cases h
      exact Nat.le_refl _
  · cases h
    exact Nat.le_refl _

theorem Literal.takeUnsigned_length {negative : Bool} {cs : List Char} {p : Literal × List Char}
    (h : Literal.takeUnsigned negative cs = some p) : p.2.length < cs.length := by
  unfold Literal.takeUnsigned at h
  have size := Numeral.spanDigits_length cs
  generalize Numeral.spanDigits cs = sp at h size
  obtain ⟨whole, rest⟩ := sp
  cases whole with
  | nil => cases h
  | cons d ds =>
    simp only at h
    split at h
    · cases h
    · simp only [Option.bind_eq_bind, Option.bind_eq_some_iff, Option.pure_def] at h
      obtain ⟨f, hf, x, hx, hp⟩ := h
      have hf' := Literal.takeFraction_length hf
      have hx' := Literal.takeExponent_length hx
      cases hp
      simp only [List.length_cons] at size ⊢
      omega

theorem Literal.take_length {cs : List Char} {p : Literal × List Char}
    (h : Literal.take cs = some p) : p.2.length < cs.length := by
  unfold Literal.take at h
  split at h
  · have := Literal.takeUnsigned_length h
    simp only [List.length_cons]
    omega
  · exact Literal.takeUnsigned_length h

theorem takeString_length {cs : List Char} {p : List Char × List Char}
    (h : takeString cs = some p) : p.2.length < cs.length := by
  fun_induction takeString cs generalizing p <;>
    first
    | (cases h; done)
    | (cases h; simp only [List.length_cons]; omega)
    | (rename_i ih
       obtain ⟨q, hq, rfl⟩ := Option.map_eq_some_iff.1 h
       have := ih hq
       simp only [List.length_cons] at this ⊢
       omega)

theorem Token.next_length {cs : List Char} {p : Token × List Char}
    (h : Token.next cs = some p) : p.2.length < cs.length := by
  unfold Token.next at h
  split at h <;> try (cases h; simp only [List.length_cons]; omega)
  · obtain ⟨q, hq, rfl⟩ := Option.map_eq_some_iff.1 h
    have := takeString_length hq
    simp only [List.length_cons]
    omega
  · simp only [Option.bind_eq_bind, Option.bind_eq_some_iff, Option.pure_def] at h
    obtain ⟨q, hq, n, _, hp⟩ := h
    cases hp
    exact Literal.take_length hq

namespace Token

/-- The words of a text: none when some part of it is no word. -/
def scan (cs : List Char) : Option (List Token) :=
  match cs with
  | [] => some []
  | c :: rest =>
    if isBlank c then scan rest
    else
      match _h : next (c :: rest) with
      | none => none
      | some (t, rest') => (scan rest').map (t :: ·)
termination_by cs.length
decreasing_by
  · simp
  · exact next_length _h

end Token

end Responder.Json
