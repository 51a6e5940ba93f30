/-
# Responder.Proofs.Json.LiteralText -- decimals are read back from both notations

A number as written has parts: a sign, digits before and behind the point, and an
exponent.  `Literal.text` writes the parts down, and a text without a needless zero in
front is read as these parts and nothing else (`Literal.take_text`).

A layout chooses the parts for a decimal (`Layout.literal`), and its text is theirs
(`text_eq`).  Positional notation only adds zeros around the digits
(`whole_append_fraction`), as many as the point is away, so whichever notation is chosen,
the parts are worth what the decimal is (`magnitude_literal`).  A layout's text is
therefore read as the decimal that was written (`Layout.take_text`), and no other one is
written alike (`text_injective`).
-/
import Responder.Json.Token
import Responder.Numeral.Layout
import Responder.Proofs.Numeral.Decimal

namespace Responder.Json.Literal

set_option autoImplicit false

open Numeral Numeral.Layout

/-! ## A number and its parts -/

/-- The part behind the whole digits: a point and digits, if there are any. -/
def fractionText : Option (List Digit) → List Char
  | none => []
  | some ds => '.' :: digitChars ds

/-- The exponent with its sign, if there is one. -/
def exponentText : Option (Bool × List Digit) → List Char
  | none => []
  | some (negative, ds) => 'e' :: (if negative then '-' else '+') :: digitChars ds

/-- A number as it is written down. -/
def text (l : Literal) : List Char :=
  (if l.negative then ['-'] else []) ++
    (digitChars l.whole ++ (fractionText l.fraction ++ exponentText l.exponent))

/-- Whether there are digits wherever a number needs them, and no needless zero in front. -/
structure WellFormed (l : Literal) : Prop where
  whole : Plain l.whole
  fraction : l.fraction ≠ some []
  exponent : ∀ negative, l.exponent ≠ some (negative, [])

/-- The power of ten that a number names. -/
def power (l : Literal) : Int :=
  match l.exponent with
  | none => 0
  | some (negative, ds) => if negative then -(ofDigits ds : Int) else ofDigits ds

/-- What a number is worth, without its sign. -/
def magnitude (l : Literal) : ℚ := pointed l.whole (l.fraction.getD []) * 10 ^ l.power

/-! ## Reading the parts -/

theorem noDigitFirst_exponentText (exponent : Option (Bool × List Digit)) :
    NoDigitFirst (exponentText exponent) := by
  cases exponent with
  | none => exact fun c first => nomatch first
  | some p =>
      rintro c ⟨⟩
      decide

theorem noDigitFirst_fractionText_append (fraction : Option (List Digit)) {rest : List Char}
    (stops : NoDigitFirst rest) : NoDigitFirst (fractionText fraction ++ rest) := by
  cases fraction with
  | none => exact stops
  | some ds =>
      rintro c ⟨⟩
      decide

theorem takeExponent_exponentText {exponent : Option (Bool × List Digit)}
    (digits : ∀ negative, exponent ≠ some (negative, [])) :
    takeExponent (exponentText exponent) = some (exponent, []) := by
  cases exponent with
  | none => rfl
  | some p =>
      obtain ⟨negative, ds⟩ := p
      have spanned : spanDigits (digitChars ds) = (ds, []) := spanDigits_chars ds
      obtain ⟨d, tail, rfl⟩ := List.exists_cons_of_ne_nil fun none => digits negative (none ▸ rfl)
      cases negative with
      | true => simp [exponentText, takeExponent, takeExponentDigits, spanned]
      | false => simp [exponentText, takeExponent, takeExponentDigits, spanned]

theorem takeFraction_fractionText_append {fraction : Option (List Digit)} (digits : fraction ≠ some [])
    {rest : List Char} (stops : NoDigitFirst rest) (noPoint : '.' ∉ rest.head?) :
    takeFraction (fractionText fraction ++ rest) = some (fraction, rest) := by
  cases fraction with
  | none =>
      rw [fractionText, List.nil_append, takeFraction]
      rintro cs rfl
      exact noPoint rfl
  | some ds =>
      obtain ⟨d, tail, rfl⟩ := List.exists_cons_of_ne_nil fun none => digits (none ▸ rfl)
      rw [fractionText, List.cons_append, takeFraction, digitChars, spanDigits_chars_append _ stops]

/-- **A number that is written down is read as its parts.** -/
theorem take_text {l : Literal} (wellFormed : l.WellFormed) : take l.text = some (l, []) := by
  obtain ⟨negative, whole, fraction, exponent⟩ := l
  obtain ⟨⟨some, plain⟩, fractionDigits, exponentDigits⟩ := wellFormed
  have stops := noDigitFirst_exponentText exponent
  have noPoint : '.' ∉ (exponentText exponent).head? := by
    intro point
    cases exponent with
    | none => cases point
    | some p => cases point
  have unsigned : takeUnsigned negative
      (digitChars whole ++ (fractionText fraction ++ exponentText exponent)) =
        Option.some (⟨negative, whole, fraction, exponent⟩, []) := by
    have spanned := spanDigits_chars_append whole (noDigitFirst_fractionText_append fraction stops)
    obtain ⟨d, ds, rfl⟩ := List.exists_cons_of_ne_nil some
    have noZero : ¬(d = 0 ∧ ds ≠ []) := by
      rintro ⟨rfl, more⟩
      exact more (List.cons.inj (plain rfl)).2
    rw [takeUnsigned, digitChars, spanned]
    simp only [if_neg noZero, takeFraction_fractionText_append fractionDigits stops noPoint,
      takeExponent_exponentText exponentDigits, Option.bind_eq_bind, Option.bind_some, Option.pure_def]
  cases negative with
  | true => exact unsigned
  | false =>
      rw [text, if_neg Bool.false_ne_true, List.nil_append, take]
      · exact unsigned
      · intro cs minus
        obtain ⟨d, ds, rfl⟩ := List.exists_cons_of_ne_nil some
        have digit := isDigit_toChar d
        rw [(List.cons.inj minus).1] at digit
        exact absurd digit (by decide)

end Responder.Json.Literal

namespace Responder.Numeral

/-! ## The parts that a layout writes -/

namespace Scientific

/-- The digits before the point in positional notation. -/
def wholeDigits (s : Scientific) : List Digit :=
  match s.exponent with
  | .ofNat e => s.digits.take (e + 1) ++ List.replicate (e + 1 - s.digits.length) 0
  | .negSucc _ => [0]

/-- The digits behind the point in positional notation. -/
def fractionDigits (s : Scientific) : List Digit :=
  match s.exponent with
  | .ofNat e => s.digits.drop (e + 1)
  | .negSucc e => List.replicate e 0 ++ s.digits

variable {s : Scientific}

/-- **Positional notation only adds zeros**, and those behind the digits scale them to the point. -/
theorem whole_append_fraction (s : Scientific) : ∃ front back,
    s.wholeDigits ++ s.fractionDigits = List.replicate front 0 ++ (s.digits ++ List.replicate back 0) ∧
      (back : Int) - s.fractionDigits.length = s.exponent - s.rest.length := by
  obtain ⟨negative, lead, rest, e⟩ := s
  cases e with
  | ofNat e =>
      by_cases short : rest.length ≤ e
      · -- the point stands behind all digits
        refine ⟨0, e - rest.length, ?_, ?_⟩
        · simp [wholeDigits, fractionDigits, digits, List.take_of_length_le short,
            List.drop_of_length_le short]
        · simp [fractionDigits, digits, short]
      · refine ⟨0, 0, ?_, ?_⟩
        · have full : e - rest.length = 0 := by omega
          simp [wholeDigits, fractionDigits, digits, full]
        · simp [fractionDigits, digits]
          omega
  | negSucc e =>
      refine ⟨e + 1, 0, ?_, ?_⟩
      · simp [wholeDigits, fractionDigits, List.replicate_succ]
      · simp [fractionDigits, digits]
        omega

/-- **Positional notation denotes the decimal.** -/
theorem pointed_whole_fraction (s : Scientific) : pointed s.wholeDigits s.fractionDigits = s.magnitude := by
  obtain ⟨front, back, same, places⟩ := s.whole_append_fraction
  have coefficient : ofDigits (s.wholeDigits ++ s.fractionDigits) = ofDigits s.digits * 10 ^ back := by
    rw [same, ofDigits_append, ofDigits_append, ofDigits_zeros, ofDigits_zeros, List.length_replicate]
    omega
  have scale : (10 : ℚ) ^ (s.exponent - s.rest.length) = 10 ^ back / 10 ^ s.fractionDigits.length := by
    rw [← places, ten_zpow_sub, zpow_natCast]
  rw [pointed_eq, coefficient, magnitude_eq, scale]
  push_cast
  ring

/-- No needless zero stands in front of the point. -/
theorem Normal.plain_wholeDigits (normal : s.Normal) : Plain s.wholeDigits := by
  cases normal with
  | zero negative => exact ⟨List.cons_ne_nil _ _, fun _ => rfl⟩
  | nonzero first last =>
      obtain ⟨negative, lead, rest, e⟩ := s
      cases e with
      | ofNat e => exact ⟨List.cons_ne_nil _ _, fun zero => absurd (Option.some.inj zero) first⟩
      | negSucc e => exact ⟨List.cons_ne_nil _ _, fun _ => rfl⟩

/-- No needless zero stands at the end of the fraction. -/
theorem Normal.getLast?_fractionDigits (normal : s.Normal) : s.fractionDigits.getLast? ≠ some 0 := by
  cases normal with
  | zero negative => exact nofun
  | nonzero first last =>
      obtain ⟨negative, lead, rest, e⟩ := s
      cases e with
      | ofNat e =>
          show ((lead :: rest).drop (e + 1)).getLast? ≠ some 0
          rw [List.getLast?_drop]
          split
          · exact nofun
          · exact last
      | negSucc e =>
          show (List.replicate e 0 ++ (lead :: rest)).getLast? ≠ some 0
          rw [List.getLast?_append_of_ne_nil _ (List.cons_ne_nil _ _)]
          exact last

end Scientific

namespace Layout

open Json (Literal)

/-- The digits of an exponent, with zeros in front up to the layout's width. -/
def exponentDigits (l : Layout) (e : Int) : List Digit :=
  List.replicate (l.exponentWidth - (Numeral.digits e.natAbs).length) 0 ++ Numeral.digits e.natAbs

/-- A fraction as a layout writes it. -/
def fractionPart (l : Layout) (ds : List Digit) : Option (List Digit) :=
  if ds = [] then (if l.wholePoint then some [0] else none) else some ds

/-- The parts that a layout writes for a decimal. -/
def literal (l : Layout) (s : Scientific) : Literal :=
  if l.isPositional s.exponent then
    ⟨s.negative, s.wholeDigits, l.fractionPart s.fractionDigits, none⟩
  else
    ⟨s.negative, [s.lead], if s.rest = [] then none else some s.rest,
      some (decide (s.exponent < 0), l.exponentDigits s.exponent)⟩

variable {l : Layout} {s t : Scientific}

theorem literal_positional (positional : l.isPositional s.exponent = true) :
    l.literal s = ⟨s.negative, s.wholeDigits, l.fractionPart s.fractionDigits, none⟩ := if_pos positional

theorem literal_withExponent (other : ¬ l.isPositional s.exponent = true) :
    l.literal s = ⟨s.negative, [s.lead], if s.rest = [] then none else some s.rest,
      some (decide (s.exponent < 0), l.exponentDigits s.exponent)⟩ := if_neg other

theorem digitChars_zeros (n : Nat) : digitChars (List.replicate n 0) = zeros n := by
  rw [digitChars, List.map_replicate]
  rfl

theorem fractionText_fractionPart (l : Layout) (ds : List Digit) :
    Literal.fractionText (l.fractionPart ds) = l.fraction (digitChars ds) := by
  unfold fractionPart fraction
  cases ds with
  | nil => cases l.wholePoint <;> rfl
  | cons d ds => rfl

theorem positional_eq (l : Layout) (s : Scientific) :
    l.positional (digitChars s.digits) s.exponent =
      digitChars s.wholeDigits ++ Literal.fractionText (l.fractionPart s.fractionDigits) := by
  obtain ⟨negative, lead, rest, e⟩ := s
  rw [fractionText_fractionPart]
  cases e with
  | ofNat e =>
      simp only [positional, Scientific.wholeDigits, Scientific.fractionDigits, digitChars,
        List.map_append, List.map_take, List.map_drop, List.length_map, ← digitChars_zeros]
  | negSucc e =>
      simp only [positional, Scientific.wholeDigits, Scientific.fractionDigits, digitChars,
        List.map_append, ← digitChars_zeros]
      rfl

theorem exponentText_eq (l : Layout) (e : Int) :
    'e' :: l.exponentText e = Literal.exponentText (some (decide (e < 0), l.exponentDigits e)) := by
  simp only [exponentText, Literal.exponentText, exponentDigits, natText, decide_eq_true_eq, digitChars,
    List.map_append, List.length_map, ← digitChars_zeros]

/-- **A layout's text is that of its parts.** -/
theorem text_eq (l : Layout) (s : Scientific) : l.text s = (l.literal s).text := by
  by_cases positional : l.isPositional s.exponent = true
  · rw [literal_positional positional, text, if_pos positional, positional_eq]
    show _ = _ ++ (_ ++ (_ ++ []))
    rw [List.append_nil]
  · rw [literal_withExponent positional, text, if_neg positional, withExponent, exponentText_eq]
    cases none : s.rest <;> rfl

/-! ## Reading what a layout writes -/

theorem fractionPart_ne_nil (l : Layout) (ds : List Digit) : l.fractionPart ds ≠ some [] := by
  unfold fractionPart
  split
  · split <;> simp
  · simpa

theorem exponentDigits_ne_nil (l : Layout) (e : Int) : l.exponentDigits e ≠ [] :=
  List.append_ne_nil_of_right_ne_nil _ (digits_ne_nil _)

theorem ofDigits_exponentDigits (l : Layout) (e : Int) : ofDigits (l.exponentDigits e) = e.natAbs := by
  rw [exponentDigits, ofDigits_append, ofDigits_zeros, ofDigits_digits]
  omega

theorem wellFormed_literal (normal : s.Normal) : (l.literal s).WellFormed := by
  by_cases positional : l.isPositional s.exponent = true
  · rw [literal_positional positional]
    exact ⟨normal.plain_wholeDigits, l.fractionPart_ne_nil _, nofun⟩
  · rw [literal_withExponent positional]
    refine ⟨⟨List.cons_ne_nil _ _, fun zero => ?_⟩, ?_, fun negative none => ?_⟩
    · rw [List.head?_cons] at zero
      rw [Option.some.inj zero]
    · dsimp only
      split
      · nofun
      · simpa
    · obtain ⟨-, digits⟩ := Prod.mk.inj (Option.some.inj none)
      exact l.exponentDigits_ne_nil _ digits

/-- **Whichever notation a layout chooses, its parts are worth what the decimal is.** -/
theorem magnitude_literal (l : Layout) (s : Scientific) : (l.literal s).magnitude = s.magnitude := by
  by_cases positional : l.isPositional s.exponent = true
  · have point : pointed s.wholeDigits ((l.fractionPart s.fractionDigits).getD []) =
        pointed s.wholeDigits s.fractionDigits := by
      unfold fractionPart
      split
      · rename_i none
        rw [none]
        cases l.wholePoint <;> simp [pointed, ofDigits, continueDigits]
      · rfl
    rw [literal_positional positional, Literal.magnitude, point, s.pointed_whole_fraction, Literal.power,
      zpow_zero, mul_one]
  · have power : Literal.power ⟨s.negative, [s.lead], if s.rest = [] then none else some s.rest,
        some (decide (s.exponent < 0), l.exponentDigits s.exponent)⟩ = s.exponent := by
      simp only [Literal.power, ofDigits_exponentDigits, decide_eq_true_eq]
      split <;> omega
    have rest : (if s.rest = [] then none else some s.rest).getD [] = s.rest := by
      split
      · rename_i none
        exact none.symm
      · rfl
    rw [literal_withExponent positional, Literal.magnitude, power, rest, Scientific.magnitude]

theorem negative_literal (l : Layout) (s : Scientific) : (l.literal s).negative = s.negative := by
  unfold literal
  split <;> rfl

/-- **What a layout writes is read as the decimal that was written.** -/
theorem take_text (l : Layout) (normal : s.Normal) : Literal.take (l.text s) = some (l.literal s, []) := by
  rw [text_eq]
  exact Literal.take_text (wellFormed_literal normal)

/-- **No two decimals are written alike.** -/
theorem text_injective (l : Layout) (sNormal : s.Normal) (tNormal : t.Normal)
    (same : l.text s = l.text t) : s = t := by
  have read := take_text l sNormal
  rw [same, take_text l tNormal] at read
  have parts : l.literal s = l.literal t := (Prod.mk.inj (Option.some.inj read)).1.symm
  apply sNormal.eq_of_magnitude_eq tNormal
  · rw [← negative_literal l s, parts, negative_literal]
  · rw [← magnitude_literal l s, parts, magnitude_literal]

end Layout

end Responder.Numeral
