/-
# Responder.Proofs.Numeral.Digits -- a numeral is read back from its characters

`spanDigits` takes the characters of digits to these digits, and stops where no
digit stands (`spanDigits_chars_append`).  So the decimal numeral of a number is
read as that number (`spanDigits_chars`, with `ofDigits_digits`).  A number has one
list of digits without a needless zero (`digits_ofDigits`), and an integer one text
(`canonical_iff`).
-/
import Mathlib.Data.List.Induction
import Responder.Numeral.Digits
import Responder.Numeral.Power

namespace Responder.Numeral

set_option autoImplicit false

theorem Digit.ofChar?_toChar (d : Digit) : Digit.ofChar? d.toChar = some d := by
  revert d
  decide

theorem isDigit_toChar (d : Digit) : isDigit d.toChar = true := by
  rw [isDigit, Digit.ofChar?_toChar]
  rfl

/-- A digit's character is one of ten. -/
theorem exists_toChar_of_isDigit {c : Char} (digit : isDigit c = true) : ∃ d : Digit, d.toChar = c := by
  unfold isDigit Digit.ofChar? at digit
  split at digit
  · rename_i range
    refine ⟨⟨c.toNat - 48, by omega⟩, ?_⟩
    have back : 48 + (c.toNat - 48) = c.toNat := by omega
    simp only [Digit.toChar, back, Char.ofNat_toNat]
  · cases digit

/-- What starts with no digit. -/
def NoDigitFirst (cs : List Char) : Prop := ∀ c ∈ cs.head?, isDigit c = false

theorem spanDigits_of_noDigitFirst {cs : List Char} (stops : NoDigitFirst cs) :
    spanDigits cs = ([], cs) := by
  cases cs with
  | nil => rfl
  | cons c rest =>
      have noDigit : Digit.ofChar? c = none := by
        have := stops c (by simp)
        simpa [isDigit] using this
      simp [spanDigits, noDigit]

/-- What stands behind a text changes nothing in how its digits are taken, if it starts with none. -/
theorem spanDigits_append (cs : List Char) {rest : List Char} (stops : NoDigitFirst rest) :
    spanDigits (cs ++ rest) = ((spanDigits cs).1, (spanDigits cs).2 ++ rest) := by
  induction cs with
  | nil => exact spanDigits_of_noDigitFirst stops
  | cons c cs ih =>
      rw [List.cons_append, spanDigits, spanDigits, ih]
      cases Digit.ofChar? c <;> rfl

theorem spanDigits_suffix (cs : List Char) : (spanDigits cs).2 <:+ cs := by
  induction cs with
  | nil => exact List.suffix_rfl
  | cons c cs ih =>
      rw [spanDigits]
      cases Digit.ofChar? c with
      | none => exact List.suffix_rfl
      | some d => exact ih.trans (List.suffix_cons c cs)

/-- The characters of digits are read as these digits, up to where no digit follows. -/
theorem spanDigits_chars_append (ds : List Digit) {rest : List Char} (stops : NoDigitFirst rest) :
    spanDigits (ds.map Digit.toChar ++ rest) = (ds, rest) := by
  induction ds with
  | nil => exact spanDigits_of_noDigitFirst stops
  | cons d ds ih => simp [spanDigits, Digit.ofChar?_toChar, ih]

theorem spanDigits_chars (ds : List Digit) : spanDigits (ds.map Digit.toChar) = (ds, []) := by
  have stops : NoDigitFirst [] := by simp [NoDigitFirst]
  have spanned := spanDigits_chars_append ds stops
  rwa [List.append_nil] at spanned

theorem isDigit_of_mem_chars {ds : List Digit} {c : Char} (member : c ∈ ds.map Digit.toChar) :
    isDigit c = true := by
  obtain ⟨d, -, rfl⟩ := List.mem_map.1 member
  exact isDigit_toChar d

theorem isDigit_of_mem_natText {n : Nat} {c : Char} (member : c ∈ natText n) : isDigit c = true :=
  isDigit_of_mem_chars member

/-- No numeral but that of zero starts with a zero. -/
theorem head_digits_ne_zero {n : Nat} (positive : n ≠ 0) : (digits n).head? ≠ some 0 := by
  induction n using Nat.strongRecOn with
  | _ n ih =>
      unfold digits
      split
      · rename_i small
        simpa [Fin.ext_iff] using positive
      · have front := ih (n / 10) (by omega) (by omega)
        cases written : digits (n / 10) with
        | nil => exact absurd written (digits_ne_nil _)
        | cons d ds => simpa [written] using front

theorem eq_nil_of_digits_eq_zero_cons {n : Nat} {ds : List Digit} (written : digits n = 0 :: ds) :
    ds = [] := by
  by_cases zero : n = 0
  · subst zero
    simpa [digits] using written.symm
  · exact absurd (by rw [written]; rfl) (head_digits_ne_zero zero)

theorem natText_ne_nil (n : Nat) : natText n ≠ [] := by
  simpa [natText] using digits_ne_nil n

/-! ## Digits of a number -/

theorem continueDigits_eq (n : Nat) (ds : List Digit) :
    continueDigits n ds = n * 10 ^ ds.length + ofDigits ds := by
  induction ds generalizing n with
  | nil => simp [continueDigits, ofDigits]
  | cons d ds ih =>
      have step (m : Nat) : continueDigits m (d :: ds) = continueDigits (10 * m + d) ds := rfl
      rw [ofDigits, step, step, ih (10 * n + d), ih (10 * 0 + d), List.length_cons, Nat.pow_succ]
      grind

theorem ofDigits_append (ds es : List Digit) :
    ofDigits (ds ++ es) = ofDigits ds * 10 ^ es.length + ofDigits es := by
  rw [ofDigits, continueDigits_append, continueDigits_eq]
  rfl

theorem ofDigits_concat (ds : List Digit) (d : Digit) : ofDigits (ds ++ [d]) = 10 * ofDigits ds + d := by
  rw [ofDigits, continueDigits_append]
  rfl

theorem ofDigits_zeros (n : Nat) : ofDigits (List.replicate n 0) = 0 := by
  induction n with
  | zero => rfl
  | succ n ih => rw [List.replicate_succ', ofDigits_concat, ih]; rfl

theorem digits_of_lt {n : Nat} (small : n < 10) : digits n = [⟨n, small⟩] := by
  rw [digits, dif_pos small]

theorem digits_mul_add {n : Nat} (positive : n ≠ 0) (d : Digit) : digits (10 * n + d) = digits n ++ [d] := by
  have large : ¬ 10 * n + d.val < 10 := by omega
  have front : (10 * n + d.val) / 10 = n := by omega
  have last : (10 * n + d.val) % 10 = d.val := by omega
  rw [digits, dif_neg large]
  simp only [front, last]

/-- Whether digits are written as a number is: there are some, and no needless zero in front. -/
def Plain (ds : List Digit) : Prop := ds ≠ [] ∧ (ds.head? = some 0 → ds = [0])

theorem plain_digits (n : Nat) : Plain (digits n) := by
  refine ⟨digits_ne_nil n, fun first => ?_⟩
  by_cases zero : n = 0
  · rw [zero]
    exact digits_of_lt (by decide)
  · exact absurd first (head_digits_ne_zero zero)

/-- **Plain digits are those of the number that they denote.** -/
theorem digits_ofDigits {ds : List Digit} (plain : Plain ds) : digits (ofDigits ds) = ds := by
  induction ds using List.reverseRecOn with
  | nil => exact absurd rfl plain.1
  | append_singleton front d ih =>
      rw [ofDigits_concat]
      by_cases none : front = []
      · subst none
        have only : 10 * ofDigits [] + d.val = d.val := by simp [ofDigits, continueDigits]
        rw [only]
        exact digits_of_lt d.isLt
      · -- with more digits behind it, the first is not zero
        have first : front.head? ≠ some 0 := by
          intro zero
          have all := plain.2 (by rw [List.head?_append, zero]; rfl)
          have short := congrArg List.length all
          have long := List.length_pos_iff.2 none
          simp only [List.length_append, List.length_singleton] at short
          omega
        have inner := ih ⟨none, fun zero => absurd zero first⟩
        have positive : ofDigits front ≠ 0 := by
          intro zero
          rw [zero, digits_of_lt (by decide)] at inner
          rw [← inner] at first
          exact first rfl
        rw [digits_mul_add positive, inner]

/-! ## Integers as text -/

/-- Whether a text is the one decimal form of an integer: plain digits, behind a minus sign when the
integer is negative, and no other sign. -/
def Canonical (i : Int) (text : List Char) : Prop :=
  ∃ ds, text = (if i < 0 then ['-'] else []) ++ ds.map Digit.toChar ∧ ofDigits ds = i.natAbs ∧ Plain ds

theorem intText_eq (i : Int) : intText i = (if i < 0 then ['-'] else []) ++ natText i.natAbs := by
  cases i with
  | ofNat n =>
      have sign : ¬ Int.ofNat n < 0 := by
        rw [Int.ofNat_eq_natCast]
        omega
      rw [if_neg sign]
      rfl
  | negSucc n =>
      rw [if_pos (Int.negSucc_lt_zero n)]
      rfl

theorem canonical_iff {i : Int} {text : List Char} : Canonical i text ↔ text = intText i := by
  rw [intText_eq]
  constructor
  · rintro ⟨ds, rfl, value, plain⟩
    rw [← value, natText, digits_ofDigits plain]
  · intro same
    exact ⟨digits i.natAbs, same, ofDigits_digits _, plain_digits _⟩

end Responder.Numeral
