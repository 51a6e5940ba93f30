/-
# Responder.Proofs.Template.Integer -- integers in templates are exact or refused

Digits that stand between blanks in an action, with a sign or without, are one word,
however many they are: no digit is left for a second token, and no sign is a trim mark
or that of an exponent.  So the action is one token, or the flaw that no integer of 64
bits is denoted (`action_numeral`).  In the first case the template shows the integer's
one decimal form on every record, and in the second the error quotes the digits as they
stand (`integer_shown_or_refused`).
-/
import Responder.Proofs.Template.Rendering
import Responder.Proofs.Template.Written

namespace Responder.Template

set_option autoImplicit false

open Numeral (Digit)

/-! ## Where a number starts -/

theorem skipSpace_of_startsNumber {cs : List Char} (starts : startsNumber cs = true) :
    skipSpace cs = cs := by
  cases cs with
  | nil => rfl
  | cons c rest =>
      have noSpace : isSpace c = false := by
        cases space : isSpace c with
        | false => rfl
        | true =>
            have noDigit := isDigit_of_isSpace space
            have noSign : c ≠ '-' ∧ c ≠ '+' := by
              constructor <;> rintro rfl <;> exact absurd space (by decide)
            simp [startsNumber, noDigit, noSign] at starts
      simp [skipSpace, noSpace]

theorem closing?_of_startsNumber {cs : List Char} (starts : startsNumber cs = true) (spaced : Bool) :
    closing? spaced cs = none := by
  have noBrace : Numeral.isDigit '\x7d' = false := by decide
  have noMinus : Numeral.isDigit '-' = false := by decide
  unfold closing?
  split
  · simp [startsNumber, noBrace] at starts
  · simp [startsNumber, noBrace, noMinus] at starts
  · rfl

theorem no_comment_of_startsNumber {inside : List Char} : startsNumber ('/' :: inside) = false := by
  have noDigit : Numeral.isDigit '/' = false := by decide
  simp [startsNumber, noDigit]

/-- The tokens of an action whose blanks end where a number starts are read from there. -/
theorem action_of_startsNumber {before number : List Char} (start : Nat) (gap : IsGap before)
    (starts : startsNumber number = true) :
    action start (before ++ number) =
      (actionTokens start (start + 2 + byteCount before) true number).map
        fun (tokens, trimRight, rest) => (.action tokens start ⟨false, trimRight⟩, rest) := by
  have untrimmed : takeTrim (before ++ number) = (false, before ++ number) :=
    takeTrim_trimMark false (gap.blankFirst number)
  have skipped : skipSpace (before ++ number) = number := by
    rw [gap.skipSpace_append, skipSpace_of_startsNumber starts]
  have spaced : decide (number.length < (before ++ number).length) = true := by
    have := List.length_pos_iff.2 gap.1
    rw [List.length_append]
    exact decide_eq_true (by omega)
  have place : byteCount (before ++ number) - byteCount number = byteCount before := by
    rw [byteCount_append]
    omega
  unfold action
  simp only [untrimmed, skipped]
  split
  · rw [no_comment_of_startsNumber] at starts
    cases starts
  · rw [spaced, place]

/-! ## Digits behind a sign, alone in an action -/

section alone

variable {before after : List Char} {sign : Sign} {ds : List Digit} {i : Int}

/-- **Digits between blanks are the one token of an action, or its flaw.** -/
theorem action_numeral (start : Nat) (gap : IsGap before) (ends : IsGap after) (some : ds ≠ [])
    (value : sign.apply (Numeral.ofDigits ds) = i) :
    action start (before ++ (sign.numeral ds ++ (after ++ ['\x7d', '\x7d']))) =
      if fits : -2 ^ 63 ≤ i ∧ i < 2 ^ 63 then
        .ok (.action [⟨.number (.integer i (range_of_fits fits)), start + 2 + byteCount before⟩] start
          ⟨false, false⟩, [])
      else .error ⟨start + 2 + byteCount before, .badNumber (String.ofList (sign.numeral ds))⟩ := by
  have starts := startsNumber_numeral sign some (after ++ ['\x7d', '\x7d'])
  have taken := takeToken_numeral (start + 2 + byteCount before) sign some value
    (ends.blankFirst ['\x7d', '\x7d'])
  rw [action_of_startsNumber start gap starts]
  by_cases fits : -2 ^ 63 ≤ i ∧ i < 2 ^ 63
  · rw [dif_pos fits] at taken ⊢
    have closes (spaced : Bool) : closing? spaced (skipSpace (after ++ ['\x7d', '\x7d'])) =
        Option.some (false, []) := by
      rw [ends.skipSpace_append]
      rfl
    rw [actionTokens_cons taken, actionTokens_closed (closes _)]
    rfl
  · rw [dif_neg fits] at taken ⊢
    have word : sign.numeral ds ++ (after ++ ['\x7d', '\x7d']) ≠ [] := by
      intro none
      rw [none] at starts
      cases starts
    rw [actionTokens_flaw (closing?_of_startsNumber starts true) word taken]
    rfl

/-- The source of an action that holds digits between blanks. -/
def loneNumeral (before : List Char) (sign : Sign) (ds : List Digit) (after : List Char) : List Char :=
  '\x7b' :: '\x7b' :: (before ++ (sign.numeral ds ++ (after ++ ['\x7d', '\x7d'])))

theorem splitOpening_loneNumeral : splitOpening (loneNumeral before sign ds after) =
    ([], Option.some (before ++ (sign.numeral ds ++ (after ++ ['\x7d', '\x7d'])))) :=
  rfl

/-- An integer of 64 bits compiles to itself. -/
theorem compile_loneNumeral (name : String) (gap : IsGap before) (ends : IsGap after) (some : ds ≠ [])
    (value : sign.apply (Numeral.ofDigits ds) = i) (fits : -2 ^ 63 ≤ i ∧ i < 2 ^ 63) :
    compile name (String.ofList (loneNumeral before sign ds after)) =
      .ok ⟨name, loneNumeral before sign ds after,
        [.action (.value (.literal (.number (.integer i (range_of_fits fits))))) 0]⟩ := by
  have read := action_numeral 0 gap ends some value
  rw [dif_pos fits] at read
  have scanned : scan (loneNumeral before sign ds after) =
      .ok [.action [⟨.number (.integer i (range_of_fits fits)), 0 + 2 + byteCount before⟩] 0
        ⟨false, false⟩] := by
    rw [scan, scanFrom_action splitOpening_loneNumeral read, scanFrom_text rfl]
    rfl
  have parsed := pieces_eq_ok_iff.2 ⟨_, scanned, rfl⟩
  rw [compile, String.toList_ofList, parsed]
  rfl

/-- An integer that needs more than 64 bits does not compile. -/
theorem compile_loneNumeral_error (name : String) (gap : IsGap before) (ends : IsGap after)
    (some : ds ≠ []) (value : sign.apply (Numeral.ofDigits ds) = i)
    (large : ¬ (-2 ^ 63 ≤ i ∧ i < 2 ^ 63)) :
    compile name (String.ofList (loneNumeral before sign ds after)) =
      .error (.parse name (1 + before.count '\n') (.badNumber (String.ofList (sign.numeral ds)))) := by
  have read := action_numeral 0 gap ends some value
  rw [dif_neg large] at read
  have failed : scan (loneNumeral before sign ds after) =
      .error ⟨0 + 2 + byteCount before, .badNumber (String.ofList (sign.numeral ds))⟩ :=
    scanFrom_flaw splitOpening_loneNumeral read
  have refused := pieces_eq_error_iff.2 (.inl ⟨_, failed, rfl⟩)
  have line : lineAt (loneNumeral before sign ds after) (0 + 2 + byteCount before) =
      1 + before.count '\n' := by
    have behind := lineAt_byteCount ('\x7b' :: '\x7b' :: before)
      (sign.numeral ds ++ (after ++ ['\x7d', '\x7d']))
    have two : byteCount ('\x7b' :: '\x7b' :: before) = 0 + 2 + byteCount before := by
      simp only [byteCount]
      have one : Char.utf8Size '\x7b' = 1 := by decide
      omega
    rw [two] at behind
    simpa [loneNumeral] using behind
  refine compile_eq_error_iff.2 ⟨.flaw _, by rw [String.toList_ofList]; exact refused, ?_⟩
  rw [String.toList_ofList, SyntaxError.located, line]

end alone

/-! ## Shown and refused -/

theorem valueChars_integer (i : Int) (range : -2 ^ 63 ≤ i ∧ i < 2 ^ 64) :
    valueChars (.number (.integer i range)) = Numeral.intText i := by
  rw [valueChars]
  · rw [Json.chars, Json.Number.chars]
  · simp
  · simp
  · simp

/-- Digits and signs stand in quotes as they are. -/
theorem quoted_numeral (sign : Sign) (ds : List Digit) :
    Text.quoted (String.ofList (sign.numeral ds)) = "\"" ++ String.ofList (sign.numeral ds) ++ "\"" := by
  have digit (d : Digit) : Text.quoteChar '"' d.toChar = [d.toChar] := by
    revert d
    decide +kernel
  have digits : (ds.map Digit.toChar).flatMap (Text.quoteChar '"') = ds.map Digit.toChar := by
    induction ds with
    | nil => rfl
    | cons d ds ih => rw [List.map_cons, List.flatMap_cons, ih, digit, List.singleton_append]
  have signed : sign.chars.flatMap (Text.quoteChar '"') = sign.chars := by
    cases sign <;> decide +kernel
  have shown : (sign.numeral ds).flatMap (Text.quoteChar '"') = sign.numeral ds := by
    rw [Sign.numeral, List.flatMap_append, signed, digits]
  rw [Text.quoted, String.toList_ofList, shown]
  apply String.toList_inj.1
  simp

/-- **No integer in a template is ever wrapped.**  Any digits, with a sign or without, compile in an
action of their own exactly if the integer that they denote fits 64 bits with a sign.

* The template then shows the one decimal form of this integer on every record.
* Otherwise the error quotes the whole text. -/
theorem integer_shown_or_refused (name : String) (sign : Sign) (d : Digit) (ds : List Digit) :
    let text := String.ofList (sign.numeral (d :: ds))
    let i := sign.apply (Numeral.ofDigits (d :: ds))
    let source := "\x7b\x7b " ++ text ++ " \x7d\x7d"
    ((∃ t, compile name source = .ok t) ↔ -2 ^ 63 ≤ i ∧ i ≤ 2 ^ 63 - 1) ∧
      (∀ t, compile name source = .ok t → ∀ event : Event,
        ∃ shown, t.render event = .ok (String.ofList shown) ∧ Numeral.Canonical i shown) ∧
      (¬ (-2 ^ 63 ≤ i ∧ i ≤ 2 ^ 63 - 1) → ∃ e, compile name source = .error e ∧
        e.message = "template: " ++ name ++ ":1: bad number syntax: \"" ++ text ++ "\"") := by
  intro text i source
  have gap : IsGap [' '] := ⟨List.cons_ne_nil _ _, List.all_eq_true.1 rfl⟩
  have nonempty : d :: ds ≠ [] := List.cons_ne_nil d ds
  have written : source = String.ofList (loneNumeral [' '] sign (d :: ds) [' ']) := by
    apply String.toList_inj.1
    simp [source, text, loneNumeral]
  by_cases fits : -2 ^ 63 ≤ i ∧ i < 2 ^ 63
  · have compiled := compile_loneNumeral name gap gap nonempty rfl fits
    rw [← written] at compiled
    refine ⟨⟨fun _ => ⟨fits.1, by omega⟩, fun _ => ⟨_, compiled⟩⟩, ?_, fun large => ?_⟩
    · intro t compiledToo event
      cases compiled.symm.trans compiledToo
      refine ⟨Numeral.intText i, render_eq_ok_iff.2 ⟨_, .cons (.action 0 rfl) .nil, ?_⟩,
        Numeral.canonical_iff.2 rfl⟩
      rw [List.flatten_singleton, Literal.json, valueChars_integer]
    · exact absurd ⟨fits.1, by omega⟩ large
  · have refused := compile_loneNumeral_error name gap gap nonempty rfl fits
    rw [← written] at refused
    have noTemplate (t : Template) : compile name source ≠ .ok t := by
      rw [refused]
      exact nofun
    refine ⟨⟨?_, ?_⟩, fun t compiled => absurd compiled (noTemplate t), fun _ => ⟨_, refused, ?_⟩⟩
    · rintro ⟨t, compiled⟩
      exact absurd compiled (noTemplate t)
    · intro range
      exact absurd ⟨range.1, by omega⟩ fits
    · have line : toString 1 = "1" := rfl
      show "template: " ++ name ++ ":" ++ toString 1 ++ ": " ++
        ("bad number syntax: " ++ Text.quoted text) = _
      rw [quoted_numeral, line]
      apply String.toList_inj.1
      simp [text]

/-- The least integer compiles, with a needless zero, and the same digits behind the other sign do
not. -/
theorem integer_shown_or_refused_at_limit :
    (∃ t, compile "t" "\x7b\x7b -09223372036854775808 \x7d\x7d" = .ok t) ∧
      ∃ e, compile "t" "\x7b\x7b +09223372036854775808 \x7d\x7d" = .error e ∧
        e.message = "template: t:1: bad number syntax: \"+09223372036854775808\"" := by
  let ds : List Digit := [9, 2, 2, 3, 3, 7, 2, 0, 3, 6, 8, 5, 4, 7, 7, 5, 8, 0, 8]
  have low : Sign.minus.numeral (0 :: ds) = "-09223372036854775808".toList := by decide +kernel
  have high : Sign.plus.numeral (0 :: ds) = "+09223372036854775808".toList := by decide +kernel
  obtain ⟨compiles, -, -⟩ := integer_shown_or_refused "t" .minus 0 ds
  obtain ⟨-, -, refused⟩ := integer_shown_or_refused "t" .plus 0 ds
  rw [low, String.ofList_toList] at compiles
  rw [high, String.ofList_toList] at refused
  exact ⟨compiles.2 (by decide), refused (by decide)⟩

end Responder.Template
