/-
# Responder.Numeral.Digits -- natural numbers as decimal digits

A digit is a number below ten, and a numeral is a list of digits with the most
significant first.  `digits` writes a number with no leading zero (zero itself
is the one digit `0`), and `ofDigits` reads any list of digits, leading zeros
included; `ofDigits_digits` says that reading undoes writing.
-/

namespace Responder.Numeral

set_option autoImplicit false

/-- A decimal digit. -/
abbrev Digit := Fin 10

/-- There are digits, so zero is one. -/
instance Digit.instNeZero : @NeZero Nat Zero.ofOfNat0 10 := ⟨by decide⟩

/-- The character that shows a digit. -/
def Digit.toChar (d : Digit) : Char := Char.ofNat (48 + d.val)

/-- The digit that a character shows, if it is one of `0` to `9`. -/
def Digit.ofChar? (c : Char) : Option Digit :=
  if h : 48 ≤ c.toNat ∧ c.toNat < 58 then some ⟨c.toNat - 48, by omega⟩ else none

/-- Whether a character is one of `0` to `9`. -/
def isDigit (c : Char) : Bool := (Digit.ofChar? c).isSome

/-- The digits of `n`, most significant first, with no leading zero. -/
def digits (n : Nat) : List Digit :=
  if h : n < 10 then [⟨n, h⟩] else digits (n / 10) ++ [⟨n % 10, Nat.mod_lt n (by decide)⟩]
termination_by n
decreasing_by omega

/-- The number that a list of digits denotes, read after the number `n`. -/
def continueDigits (n : Nat) (ds : List Digit) : Nat := ds.foldl (fun m d => 10 * m + d.val) n

/-- The number that a list of digits denotes. -/
def ofDigits (ds : List Digit) : Nat := continueDigits 0 ds

theorem continueDigits_append (n : Nat) (ds es : List Digit) :
    continueDigits n (ds ++ es) = continueDigits (continueDigits n ds) es := by
  simp [continueDigits]

theorem ofDigits_digits (n : Nat) : ofDigits (digits n) = n := by
  induction n using Nat.strongRecOn with
  | _ n ih =>
    unfold digits
    split
    · simp [ofDigits, continueDigits]
    · have step := ih (n / 10) (by omega)
      unfold ofDigits at step ⊢
      rw [continueDigits_append, step]
      simp only [continueDigits, List.foldl_cons, List.foldl_nil]
      omega

theorem digits_ne_nil (n : Nat) : digits n ≠ [] := by
  unfold digits
  split <;> simp

/-- The decimal numeral of a natural number. -/
def natText (n : Nat) : List Char := (digits n).map Digit.toChar

/-- The decimal numeral of an integer, with a leading `-` when it is negative. -/
def intText : Int → List Char
  | .ofNat n => natText n
  | .negSucc n => '-' :: natText (n + 1)

/-- The digits at the start of a text and what follows them. -/
def spanDigits : List Char → List Digit × List Char
  | [] => ([], [])
  | c :: rest =>
    match Digit.ofChar? c with
    | some d => (d :: (spanDigits rest).1, (spanDigits rest).2)
    | none => ([], c :: rest)

theorem spanDigits_length (cs : List Char) :
    (spanDigits cs).2.length + (spanDigits cs).1.length = cs.length := by
  induction cs with
  | nil => rfl
  | cons c rest ih =>
    simp only [spanDigits]
    split <;> simp only [List.length_cons, List.length_nil]
    omega

end Responder.Numeral
