/-
# Responder.Proofs.Template.FloatText -- floats in rendered text

A float is shown by its shortest decimal, and the decimal's exponent alone decides how:
in plain notation from -4 up to 5, and with an exponent otherwise (`plainNotation_iff`,
`exponentNotation_of_not_plain`).  Whichever it is, the text is read as the decimal that
was shown, its sign included, so floats of different decimals are shown apart
(`float_shown_by_value`).
-/
import Responder.Proofs.Json.LiteralText
import Responder.Template.Eval

namespace Responder.Template

set_option autoImplicit false

open Numeral Numeral.Layout

/-! ## The two notations -/

/-- A minus sign, if one is asked for. -/
def signChars (negative : Bool) : List Char := if negative then ['-'] else []

/-- Digits behind a point, and no point if there are none. -/
def fractionChars (ds : List Digit) : List Char := if ds = [] then [] else '.' :: digitChars ds

/-- Whether a text is digits, or digits around a point, with no needless zero at either end. -/
def PlainNotation (text : List Char) : Prop :=
  ∃ negative whole fraction, text = signChars negative ++ (digitChars whole ++ fractionChars fraction) ∧
    Plain whole ∧ fraction.getLast? ≠ some 0

/-- Whether a text shows a decimal's digits with a point behind the first, and its exponent with a sign
and at least two digits, of which no third one is a zero in front. -/
def ExponentNotation (s : Scientific) (text : List Char) : Prop :=
  ∃ ds, text = signChars s.negative ++ (s.lead.toChar :: (fractionChars s.rest ++
      'e' :: (if s.exponent < 0 then '-' else '+') :: digitChars ds)) ∧
    ofDigits ds = s.exponent.natAbs ∧ 2 ≤ ds.length ∧ (2 < ds.length → ds.head? ≠ some 0)

theorem not_mem_digitChars {c : Char} (noDigit : isDigit c = false) (ds : List Digit) : c ∉ digitChars ds := by
  intro member
  rw [isDigit_of_mem_chars member] at noDigit
  cases noDigit

theorem not_mem_signChars {c : Char} (noMinus : c ≠ '-') (negative : Bool) : c ∉ signChars negative := by
  cases negative <;> simp [signChars, noMinus]

/-- A mark that is neither a digit nor a sign stands behind the digits before the point. -/
theorem mem_plain_iff {c : Char} (noDigit : isDigit c = false) (noMinus : c ≠ '-') {negative : Bool}
    {whole fraction : List Digit} :
    c ∈ signChars negative ++ (digitChars whole ++ fractionChars fraction) ↔ c = '.' ∧ fraction ≠ [] := by
  have noSign := not_mem_signChars noMinus negative
  have noWhole := not_mem_digitChars noDigit whole
  have noFraction := not_mem_digitChars noDigit fraction
  by_cases none : fraction = []
  · simp [fractionChars, noSign, noWhole, none]
  · simp [fractionChars, noSign, noWhole, noFraction, none]

/-- Plain notation has no exponent. -/
theorem PlainNotation.no_exponent {text : List Char} (plain : PlainNotation text) : 'e' ∉ text := by
  obtain ⟨negative, whole, fraction, rfl, -⟩ := plain
  rw [mem_plain_iff (by decide) (by decide)]
  rintro ⟨same, -⟩
  exact absurd same (by decide)

theorem ExponentNotation.exponent {s : Scientific} {text : List Char} (shown : ExponentNotation s text) :
    'e' ∈ text := by
  obtain ⟨ds, rfl, -⟩ := shown
  simp

/-! ## Decimals in rendered text -/

section decimal

variable {s : Scientific}

theorem isPositional_floatLayout {e : Int} : floatLayout.isPositional e = true ↔ -4 ≤ e ∧ e < 6 := by
  rw [isPositional, Bool.and_eq_true, decide_eq_true_iff, decide_eq_true_iff]
  rfl

theorem fraction_floatLayout (ds : List Digit) : floatLayout.fraction (digitChars ds) = fractionChars ds := by
  cases ds <;> rfl

/-- The text of a decimal that is written positionally. -/
theorem text_of_positional (range : -4 ≤ s.exponent ∧ s.exponent < 6) :
    floatLayout.text s =
      signChars s.negative ++ (digitChars s.wholeDigits ++ fractionChars s.fractionDigits) := by
  rw [text, if_pos (isPositional_floatLayout.2 range), positional_eq, fractionText_fractionPart,
    fraction_floatLayout]
  rfl

theorem plainNotation_of_positional (normal : s.Normal) (range : -4 ≤ s.exponent ∧ s.exponent < 6) :
    PlainNotation (floatLayout.text s) :=
  ⟨_, _, _, text_of_positional range, normal.plain_wholeDigits, normal.getLast?_fractionDigits⟩

/-- Two digits of an exponent are always there, and a third one only for large exponents. -/
theorem exponentDigits_floatLayout (e : Int) :
    2 ≤ (floatLayout.exponentDigits e).length ∧
      (2 < (floatLayout.exponentDigits e).length → (floatLayout.exponentDigits e).head? ≠ some 0) := by
  have plain := plain_digits e.natAbs
  have nonempty := List.length_pos_iff.2 plain.1
  have width : floatLayout.exponentWidth = 2 := rfl
  rw [exponentDigits, width, List.length_append, List.length_replicate]
  refine ⟨by omega, fun long zero => ?_⟩
  have full : 2 - (Numeral.digits e.natAbs).length = 0 := by omega
  rw [full, List.replicate_zero, List.nil_append] at zero
  rw [plain.2 zero, List.length_singleton] at long
  omega

/-- The text of a decimal that is written with an exponent. -/
theorem exponentNotation_of_not_positional (range : ¬(-4 ≤ s.exponent ∧ s.exponent < 6)) :
    ExponentNotation s (floatLayout.text s) := by
  have other : ¬ floatLayout.isPositional s.exponent = true := mt isPositional_floatLayout.1 range
  refine ⟨floatLayout.exponentDigits s.exponent, ?_, ofDigits_exponentDigits _ _,
    exponentDigits_floatLayout s.exponent⟩
  rw [text, if_neg other, withExponent, exponentText_eq, Json.Literal.exponentText]
  simp only [decide_eq_true_eq]
  cases s.rest <;> rfl

/-- **The exponent decides the notation.** -/
theorem plainNotation_iff (normal : s.Normal) :
    PlainNotation (floatLayout.text s) ↔ -4 ≤ s.exponent ∧ s.exponent < 6 := by
  refine ⟨fun plain => ?_, plainNotation_of_positional normal⟩
  by_contra range
  exact plain.no_exponent (exponentNotation_of_not_positional range).exponent

/-- A point is written in plain notation only if the decimal is no whole number. -/
theorem mem_point_iff (normal : s.Normal) (range : -4 ≤ s.exponent ∧ s.exponent < 6) :
    '.' ∈ floatLayout.text s ↔ ¬ ∃ n : Nat, s.magnitude = n := by
  rw [text_of_positional range, mem_plain_iff (by decide) (by decide), ← s.pointed_whole_fraction,
    pointed_eq_natCast_iff normal.getLast?_fractionDigits]
  exact and_iff_right rfl

end decimal

/-- **Floats are shown by their value, and apart from one another.**

* The text of a float is read as a number of its sign that is worth exactly what its shortest decimal is.
* It is in plain notation if and only if that decimal's exponent is from -4 up to 5; there is a point
  then only if the value is no whole number.
* Otherwise it is the decimal's digits and its exponent, with a sign and padded to two digits.
* Floats with other decimals have other texts. -/
theorem float_shown_by_value (x : Binary64) :
    let s := x.shortest
    let text := valueChars (.number (.float x))
    (∃ l, Json.Literal.take text = some (l, []) ∧ l.negative = s.negative ∧ l.magnitude = s.magnitude) ∧
      (PlainNotation text ↔ -4 ≤ s.exponent ∧ s.exponent < 6) ∧
      (PlainNotation text → ('.' ∈ text ↔ ¬ ∃ n : Nat, s.magnitude = n)) ∧
      (¬ PlainNotation text → ExponentNotation s text) ∧
      ∀ y : Binary64, y.shortest ≠ s → valueChars (.number (.float y)) ≠ text := by
  intro s text
  have normal : s.Normal := x.normal_shortest
  have shown : text = floatLayout.text s := rfl
  have plain_iff := plainNotation_iff normal
  rw [← shown] at plain_iff
  refine ⟨⟨_, take_text floatLayout normal, negative_literal _ _, magnitude_literal _ _⟩, plain_iff,
    fun plain => mem_point_iff normal (plain_iff.1 plain), fun other => ?_, fun y apart same => ?_⟩
  · exact exponentNotation_of_not_positional (mt plain_iff.2 other)
  · exact apart (text_injective floatLayout y.normal_shortest normal same)

/-- A million is the least positive whole number that is shown with an exponent. -/
example : valueChars (.number (.float ⟨false, 1000000 * 2 ^ 33, -33, by decide⟩)) = ['1', 'e', '+', '0', '6'] := by
  decide +kernel

end Responder.Template
