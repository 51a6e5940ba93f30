/-
# Responder.Proofs.Numeral.Decimal -- what a decimal is worth, and its one normal form

Digits with a point between them are worth one rational number (`pointed`), and the
point only scales it by a power of ten (`pointed_eq`).  A decimal is normal if it shows
no needless digit: neither its first digit is zero nor its last, or it is the plain zero.

A normal decimal is known by its sign and its magnitude (`Normal.eq_of_magnitude_eq`):
were the exponents of two apart, the last digit of one would be zero.  The decimal of
fewest digits of a binary64 number is normal (`normal_shortest`).
-/
import Mathlib.Algebra.Order.Field.Rat
import Mathlib.Tactic.FieldSimp
import Mathlib.Tactic.Linarith
import Mathlib.Tactic.NormNum
import Mathlib.Tactic.Ring
import Responder.Numeral.Shortest
import Responder.Proofs.Numeral.Digits

namespace Responder.Numeral

set_option autoImplicit false

/-! ## Digits around a point -/

/-- The number that digits denote with a point between them. -/
def pointed (whole fraction : List Digit) : ℚ := ofDigits whole + ofDigits fraction / 10 ^ fraction.length

theorem pointed_eq (whole fraction : List Digit) :
    pointed whole fraction = ofDigits (whole ++ fraction) / 10 ^ fraction.length := by
  have power : (10 : ℚ) ^ fraction.length ≠ 0 := pow_ne_zero _ (by norm_num)
  rw [pointed, ofDigits_append]
  push_cast
  field_simp

/-- A power of ten that is less by some places. -/
theorem ten_zpow_sub (e : Int) (n : Nat) : (10 : ℚ) ^ (e - n) = 10 ^ e / 10 ^ n := by
  rw [zpow_sub₀ (by norm_num), zpow_natCast]

/-- The place of the point is the exponent of the last digit. -/
theorem pointed_mul_zpow (whole fraction : List Digit) (e : Int) :
    pointed whole fraction * 10 ^ e = ofDigits (whole ++ fraction) * (10 : ℚ) ^ (e - fraction.length) := by
  rw [pointed_eq, ten_zpow_sub]
  ring

/-! ## Coefficients and their scales -/

/-- A number is divisible by ten only if its last digit is zero. -/
theorem getLast?_of_ten_dvd {ds : List Digit} (some : ds ≠ []) (divides : 10 ∣ ofDigits ds) :
    ds.getLast? = Option.some 0 := by
  have split : ds.dropLast ++ [ds.getLast some] = ds := List.dropLast_concat_getLast some
  rw [← split, ofDigits_concat] at divides
  have zero : ds.getLast some = 0 := by
    have small := (ds.getLast some).isLt
    apply Fin.ext
    show (ds.getLast some).val = 0
    omega
  rw [List.getLast?_eq_some_getLast some, zero]

/-- A number that is the larger by a power of ten is divisible by ten. -/
theorem ten_dvd_of_scaled {m n : Nat} {k l : Int} (lower : l < k)
    (same : (m : ℚ) * 10 ^ k = n * 10 ^ l) : 10 ∣ n := by
  obtain ⟨j, apart⟩ : ∃ j : Nat, k = l + (j + 1 : Nat) := ⟨(k - l - 1).toNat, by omega⟩
  have power : (10 : ℚ) ^ l ≠ 0 := zpow_ne_zero _ (by norm_num)
  have scaled : (n : ℚ) = ((10 * (m * 10 ^ j) : Nat) : ℚ) := by
    apply mul_right_cancel₀ power
    rw [← same, apart, zpow_add₀ (by norm_num), zpow_natCast]
    push_cast
    ring
  exact ⟨m * 10 ^ j, by exact_mod_cast scaled⟩

/-- **A number has one coefficient that ten does not divide**, and one scale for it. -/
theorem coefficient_unique {m n : Nat} {k l : Int} (mWhole : ¬ 10 ∣ m) (nWhole : ¬ 10 ∣ n)
    (same : (m : ℚ) * 10 ^ k = n * 10 ^ l) : m = n ∧ k = l := by
  have scales : k = l := by
    rcases lt_trichotomy k l with less | equal | greater
    · exact absurd (ten_dvd_of_scaled less same.symm) mWhole
    · exact equal
    · exact absurd (ten_dvd_of_scaled greater same) nWhole
  subst scales
  have power : (10 : ℚ) ^ k ≠ 0 := zpow_ne_zero _ (by norm_num)
  exact ⟨by exact_mod_cast mul_right_cancel₀ power same, rfl⟩

/-- Digits behind a point whose last is not zero are no part of a whole number. -/
theorem pointed_eq_natCast_iff {whole fraction : List Digit} (last : fraction.getLast? ≠ some 0) :
    (∃ n : Nat, pointed whole fraction = n) ↔ fraction = [] := by
  constructor
  · rintro ⟨n, same⟩
    by_contra some
    have scaled : (n : ℚ) * 10 ^ (0 : Int) =
        ofDigits (whole ++ fraction) * (10 : ℚ) ^ ((0 : Int) - fraction.length) := by
      rw [← same]
      exact pointed_mul_zpow whole fraction 0
    have lower : (0 : Int) - fraction.length < 0 := by
      have := List.length_pos_iff.2 some
      omega
    have zero := getLast?_of_ten_dvd (List.append_ne_nil_of_right_ne_nil whole some)
      (ten_dvd_of_scaled lower scaled)
    rw [List.getLast?_append_of_ne_nil _ some] at zero
    exact last zero
  · rintro rfl
    refine ⟨ofDigits whole, ?_⟩
    rw [pointed_eq, List.append_nil, List.length_nil, pow_zero, div_one]

namespace Scientific

/-- What a decimal is worth, without its sign: `d₁.d₂…dₙ * 10 ^ exponent`. -/
def magnitude (s : Scientific) : ℚ := pointed [s.lead] s.rest * 10 ^ s.exponent

theorem magnitude_eq (s : Scientific) :
    s.magnitude = ofDigits s.digits * (10 : ℚ) ^ (s.exponent - s.rest.length) :=
  pointed_mul_zpow [s.lead] s.rest s.exponent

/-! ## Decimals without a needless digit -/

/-- Whether a decimal shows no needless digit. -/
inductive Normal : Scientific → Prop where
  | zero (negative : Bool) : Normal ⟨negative, 0, [], 0⟩
  | nonzero {s : Scientific} (first : s.lead ≠ 0) (last : s.digits.getLast? ≠ some 0) : Normal s

variable {s t : Scientific}

theorem ten_not_dvd_of_last (last : s.digits.getLast? ≠ some 0) : ¬ 10 ∣ ofDigits s.digits :=
  fun divides => last (getLast?_of_ten_dvd (List.cons_ne_nil _ _) divides)

/-- The digits of a normal decimal are those of a number. -/
theorem Normal.plain (normal : s.Normal) : Plain s.digits := by
  refine ⟨List.cons_ne_nil _ _, fun zero => ?_⟩
  cases normal with
  | zero negative => rfl
  | nonzero first last => exact absurd (Option.some.inj zero) first

theorem magnitude_zero (negative : Bool) : magnitude ⟨negative, 0, [], 0⟩ = 0 := by
  simp [magnitude, pointed, ofDigits, continueDigits]

theorem magnitude_ne_zero (last : s.digits.getLast? ≠ some 0) : s.magnitude ≠ 0 := by
  have coefficient : ofDigits s.digits ≠ 0 := by
    intro zero
    exact ten_not_dvd_of_last last (zero ▸ dvd_zero 10)
  rw [magnitude_eq]
  exact mul_ne_zero (by exact_mod_cast coefficient) (zpow_ne_zero _ (by norm_num))

/-- **A normal decimal is known by its sign and its magnitude.** -/
theorem Normal.eq_of_magnitude_eq (sNormal : s.Normal) (tNormal : t.Normal)
    (sign : s.negative = t.negative) (same : s.magnitude = t.magnitude) : s = t := by
  cases sNormal with
  | zero negative =>
      cases tNormal with
      | zero negative' => cases sign; rfl
      | nonzero first last =>
          rw [magnitude_zero] at same
          exact absurd same.symm (magnitude_ne_zero last)
  | nonzero first last =>
      cases tNormal with
      | zero negative =>
          rw [magnitude_zero] at same
          exact absurd same (magnitude_ne_zero last)
      | nonzero first' last' =>
          rw [magnitude_eq, magnitude_eq] at same
          obtain ⟨coefficients, scales⟩ :=
            coefficient_unique (ten_not_dvd_of_last last) (ten_not_dvd_of_last last') same
          have digits : s.digits = t.digits := by
            rw [← digits_ofDigits (Normal.nonzero first last).plain, coefficients,
              digits_ofDigits (Normal.nonzero first' last').plain]
          obtain ⟨negative, lead, rest, e⟩ := s
          obtain ⟨negative', lead', rest', e'⟩ := t
          obtain ⟨rfl, rfl⟩ := List.cons.inj digits
          obtain rfl : negative = negative' := sign
          obtain rfl : e = e' := by
            dsimp only at scales
            omega
          rfl

/-! ## The shortest decimals -/

theorem dropTrailingZeros_prefix (ds : List Digit) : dropTrailingZeros ds <+: ds := by
  rw [dropTrailingZeros, ← List.reverse_suffix, List.reverse_reverse]
  exact List.dropWhile_suffix _

theorem getLast?_dropTrailingZeros (ds : List Digit) : (dropTrailingZeros ds).getLast? ≠ some 0 := by
  rw [dropTrailingZeros, List.getLast?_reverse]
  intro zero
  have kept := List.head?_dropWhile_not (· == 0) ds.reverse
  rw [zero] at kept
  simp at kept

/-- A coefficient is written without a needless digit. -/
theorem normal_ofCoefficient (negative : Bool) (coefficient : Nat) (scale : Int) :
    (ofCoefficient negative coefficient scale).Normal := by
  have last := getLast?_dropTrailingZeros (Numeral.digits coefficient)
  obtain ⟨dropped, front⟩ := dropTrailingZeros_prefix (Numeral.digits coefficient)
  unfold ofCoefficient
  split
  · exact .zero negative
  · rename_i lead rest kept
    rw [kept] at last front
    refine .nonzero ?_ last
    rintro (rfl : lead = 0)
    have only := (plain_digits coefficient).2 (by rw [← front]; rfl)
    rw [only] at front
    obtain ⟨rfl, -⟩ := List.append_eq_nil_iff.1 (List.cons.inj front).2
    exact last rfl

end Scientific

/-- **The decimal of fewest digits shows no needless one.** -/
theorem Binary64.normal_shortest (x : Binary64) : x.shortest.Normal := by
  unfold shortest
  split
  · exact .zero x.negative
  · dsimp only
    split
    · exact Scientific.normal_ofCoefficient _ _ _
    · exact Scientific.normal_ofCoefficient _ _ _

end Responder.Numeral
