/-
# Responder.Proofs.Json.NumberText -- a number is read wherever it stands

Each part of a number is taken from the start of a text, and in the same way whatever
stands behind this text, unless a number goes on there (`Stands`).  The text of a
float shows no blank and starts as numbers do.  So if this text alone is read as the
float, it is read as the float wherever it stands (`readsBack_float`).
-/
import Responder.Proofs.Json.RoundTrip

namespace Responder.Json

set_option autoImplicit false

/-! ## Parts of numbers -/

/-- Whether a reader that takes a text apart leaves an end of it, and does the same with anything
behind the text that does not go on with a number. -/
def Stands {α : Type} (read : List Char → Option (α × List Char)) (cs : List Char) (a : α)
    (left : List Char) : Prop :=
  left <:+ cs ∧ ∀ rest, NumberEnds rest → read (cs ++ rest) = some (a, left ++ rest)

variable {cs left : List Char}

/-- What one reader takes, another takes behind what it passes over. -/
theorem Stands.behind {α : Type} {read read' : List Char → Option (α × List Char)} {a : α}
    (stands : Stands read cs a left) (front : List Char)
    (same : ∀ rest, read' (front ++ cs ++ rest) = read (cs ++ rest)) : Stands read' (front ++ cs) a left :=
  ⟨stands.1.trans (List.suffix_append front cs), fun rest ends => (same rest).trans (stands.2 rest ends)⟩

theorem NumberEnds.noDigitFirst {rest : List Char} (ends : NumberEnds rest) : Numeral.NoDigitFirst rest :=
  fun c first => (ends c first).1

theorem spanDigits_stands {ds : List Numeral.Digit} (spanned : Numeral.spanDigits cs = (ds, left)) :
    left <:+ cs ∧ ∀ rest, NumberEnds rest → Numeral.spanDigits (cs ++ rest) = (ds, left ++ rest) := by
  have suffix := Numeral.spanDigits_suffix cs
  rw [spanned] at suffix
  refine ⟨suffix, fun rest ends => ?_⟩
  rw [Numeral.spanDigits_append cs ends.noDigitFirst, spanned]

theorem takeFraction_stands {fraction : Option (List Numeral.Digit)}
    (found : Literal.takeFraction cs = some (fraction, left)) : Stands Literal.takeFraction cs fraction left := by
  fun_cases Literal.takeFraction cs
  case case1 cs behind spanned =>
    rw [Literal.takeFraction, spanned] at found
    cases found
  case case2 cs ds behind nonempty spanned =>
    obtain ⟨d, ds, rfl⟩ := List.exists_cons_of_ne_nil nonempty
    rw [Literal.takeFraction, spanned] at found
    cases found
    obtain ⟨suffix, more⟩ := spanDigits_stands spanned
    refine ⟨suffix.trans (List.suffix_cons _ cs), fun rest ends => ?_⟩
    rw [List.cons_append, Literal.takeFraction, more rest ends]
  case case3 noPoint =>
    rw [Literal.takeFraction] at found
    · cases found
      refine ⟨List.suffix_rfl, fun rest ends => ?_⟩
      -- at the end of the text a reader looks at what stands behind it, where no number goes on
      match cs, noPoint with
      | [], _ => exact takeFraction_of_numberEnds ends
      | c :: cs, noPoint =>
          rw [List.cons_append, Literal.takeFraction]
          rintro _ same
          cases same
          exact noPoint cs rfl
    · exact noPoint

theorem takeExponentDigits_stands {negative : Bool} {exponent : Option (Bool × List Numeral.Digit)}
    (found : Literal.takeExponentDigits negative cs = some (exponent, left)) :
    Stands (Literal.takeExponentDigits negative) cs exponent left := by
  fun_cases Literal.takeExponentDigits negative cs
  case case1 behind spanned =>
    rw [Literal.takeExponentDigits, spanned] at found
    cases found
  case case2 ds behind nonempty spanned =>
    obtain ⟨d, ds, rfl⟩ := List.exists_cons_of_ne_nil nonempty
    rw [Literal.takeExponentDigits, spanned] at found
    cases found
    obtain ⟨suffix, more⟩ := spanDigits_stands spanned
    refine ⟨suffix, fun rest ends => ?_⟩
    rw [Literal.takeExponentDigits, more rest ends]

theorem takeExponent_of_noMark {c : Char} (noMark : ¬(c = 'e' ∨ c = 'E')) (cs : List Char) :
    Literal.takeExponent (c :: cs) = some (none, c :: cs) := by
  unfold Literal.takeExponent
  exact if_neg noMark

/-- Without a sign, the digits of an exponent follow its mark. -/
theorem takeExponent_of_noSign {c d : Char} (mark : c = 'e' ∨ c = 'E') (noPlus : d ≠ '+') (noMinus : d ≠ '-')
    (cs : List Char) : Literal.takeExponent (c :: d :: cs) = Literal.takeExponentDigits false (d :: cs) := by
  rw [Literal.takeExponent, if_pos mark]
  · rintro _ ⟨⟩
    exact noPlus rfl
  · rintro _ ⟨⟩
    exact noMinus rfl

theorem takeExponent_stands {exponent : Option (Bool × List Numeral.Digit)}
    (found : Literal.takeExponent cs = some (exponent, left)) : Stands Literal.takeExponent cs exponent left := by
  fun_cases Literal.takeExponent cs
  case case1 c mark digits =>
    rw [Literal.takeExponent, if_pos mark] at found
    refine (takeExponentDigits_stands found).behind [c, '+'] fun rest => ?_
    show Literal.takeExponent (c :: '+' :: (digits ++ rest)) = _
    rw [Literal.takeExponent, if_pos mark]
  case case2 c mark digits =>
    rw [Literal.takeExponent, if_pos mark] at found
    refine (takeExponentDigits_stands found).behind [c, '-'] fun rest => ?_
    show Literal.takeExponent (c :: '-' :: (digits ++ rest)) = _
    rw [Literal.takeExponent, if_pos mark]
  case case3 c mark digits noPlus noMinus =>
    cases digits with
    | nil =>
        rw [Literal.takeExponent, if_pos mark] at found
        · cases found
        all_goals rintro _ ⟨⟩
    | cons d digits =>
        have plus : d ≠ '+' := fun same => noPlus digits (same ▸ rfl)
        have minus : d ≠ '-' := fun same => noMinus digits (same ▸ rfl)
        rw [takeExponent_of_noSign mark plus minus] at found
        exact (takeExponentDigits_stands found).behind [c] fun rest =>
          takeExponent_of_noSign mark plus minus (digits ++ rest)
  case case4 c cs noMark =>
    rw [takeExponent_of_noMark noMark] at found
    cases found
    exact ⟨List.suffix_rfl, fun rest _ => takeExponent_of_noMark noMark (cs ++ rest)⟩
  case case5 =>
    cases found
    exact ⟨List.suffix_rfl, fun rest ends => takeExponent_of_numberEnds ends⟩

theorem takeUnsigned_stands {negative : Bool} {literal : Literal}
    (found : Literal.takeUnsigned negative cs = some (literal, left)) :
    Stands (Literal.takeUnsigned negative) cs literal left := by
  unfold Literal.takeUnsigned at found
  cases spanned : Numeral.spanDigits cs with
  | mk whole behind =>
      rw [spanned] at found
      cases whole with
      | nil => cases found
      | cons d ds =>
          simp only at found
          split at found
          · cases found
          · rename_i plain
            obtain ⟨⟨fraction, behindFraction⟩, first, found⟩ := Option.bind_eq_some_iff.1 found
            obtain ⟨⟨exponent, behindExponent⟩, second, found⟩ := Option.bind_eq_some_iff.1 found
            cases found
            obtain ⟨suffix, more⟩ := spanDigits_stands spanned
            obtain ⟨fractionSuffix, fractionMore⟩ := takeFraction_stands first
            obtain ⟨exponentSuffix, exponentMore⟩ := takeExponent_stands second
            refine ⟨exponentSuffix.trans (fractionSuffix.trans suffix), fun rest ends => ?_⟩
            simp only [Literal.takeUnsigned, more rest ends, if_neg plain, fractionMore rest ends,
              exponentMore rest ends, Option.bind_eq_bind, Option.bind_some, Option.pure_def]

/-- A number is taken from a text in the same way wherever this text stands. -/
theorem take_stands {literal : Literal} (found : Literal.take cs = some (literal, left)) :
    Stands Literal.take cs literal left := by
  fun_cases Literal.take cs
  case case1 cs => exact (takeUnsigned_stands found).behind ['-'] fun _ => rfl
  case case2 noMinus =>
    rw [Literal.take] at found
    · obtain ⟨suffix, more⟩ := takeUnsigned_stands found
      refine ⟨suffix, fun rest ends => ?_⟩
      match cs, noMinus with
      | [], _ => cases found
      | c :: cs, noMinus =>
          rw [List.cons_append, Literal.take]
          · exact more rest ends
          · rintro _ same
            cases same
            exact noMinus cs rfl
    · exact noMinus

/-! ## Texts of floats -/

open Numeral (Digit Layout Scientific)

/-- What may start a number. -/
def StartsNumber (cs : List Char) : Prop := ∃ c ∈ cs.head?, c = '-' ∨ Numeral.isDigit c = true

theorem isBlank_toChar (d : Digit) : isBlank d.toChar = false := by
  revert d
  decide

/-- Whether no character of a text is a blank. -/
def NoBlank (cs : List Char) : Prop := ∀ c ∈ cs, isBlank c = false

theorem noBlank_nil : NoBlank [] := fun _ member => nomatch member

theorem noBlank_append {cs ds : List Char} : NoBlank (cs ++ ds) ↔ NoBlank cs ∧ NoBlank ds := by
  simp only [NoBlank, List.mem_append, or_imp, forall_and]

theorem noBlank_cons {c : Char} {cs : List Char} : NoBlank (c :: cs) ↔ isBlank c = false ∧ NoBlank cs :=
  List.forall_mem_cons

theorem noBlank_digitChars (ds : List Digit) : NoBlank (Layout.digitChars ds) := by
  intro c member
  obtain ⟨d, -, rfl⟩ := List.mem_map.1 member
  exact isBlank_toChar d

theorem noBlank_zeros (n : Nat) : NoBlank (Layout.zeros n) := by
  intro c member
  rw [List.eq_of_mem_replicate member]
  decide

theorem noBlank_fraction (l : Layout) {ds : List Char} (plain : NoBlank ds) : NoBlank (l.fraction ds) := by
  unfold Layout.fraction
  split
  · split
    · exact noBlank_cons.2 ⟨by decide, noBlank_zeros 1⟩
    · exact noBlank_nil
  · exact noBlank_cons.2 ⟨by decide, plain⟩

theorem noBlank_positional (l : Layout) {ds : List Char} (plain : NoBlank ds) (exponent : Int) :
    NoBlank (l.positional ds exponent) := by
  cases exponent with
  | ofNat e =>
      refine noBlank_append.2 ⟨noBlank_append.2 ⟨?_, noBlank_zeros _⟩, noBlank_fraction l ?_⟩
      · exact fun c member => plain c (List.mem_of_mem_take member)
      · exact fun c member => plain c (List.mem_of_mem_drop member)
  | negSucc e => exact noBlank_cons.2 ⟨by decide, noBlank_fraction l (noBlank_append.2 ⟨noBlank_zeros e, plain⟩)⟩

theorem noBlank_withExponent (l : Layout) (x : Scientific) : NoBlank (l.withExponent x) := by
  have magnitude : NoBlank (Numeral.natText x.exponent.natAbs) := noBlank_digitChars _
  refine noBlank_cons.2 ⟨isBlank_toChar x.lead, noBlank_append.2 ⟨?_, noBlank_cons.2 ⟨by decide, ?_⟩⟩⟩
  · split
    · exact noBlank_nil
    · exact noBlank_cons.2 ⟨by decide, noBlank_digitChars x.rest⟩
  · refine noBlank_cons.2 ⟨?_, noBlank_append.2 ⟨noBlank_zeros _, magnitude⟩⟩
    split <;> decide

/-- No text of a decimal shows a blank. -/
theorem noBlank_text (l : Layout) (x : Scientific) : NoBlank (l.text x) := by
  refine noBlank_append.2 ⟨?_, ?_⟩
  · split
    · exact noBlank_cons.2 ⟨by decide, noBlank_nil⟩
    · exact noBlank_nil
  · split
    · exact noBlank_positional l (noBlank_digitChars x.digits) x.exponent
    · exact noBlank_withExponent l x

/-- The text of a decimal starts as numbers do. -/
theorem startsNumber_text (l : Layout) (x : Scientific) : StartsNumber (l.text x) := by
  unfold Layout.text
  cases x.negative with
  | true => exact ⟨'-', rfl, .inl rfl⟩
  | false =>
      cases l.isPositional x.exponent with
      | true =>
          cases x.exponent with
          | ofNat e => exact ⟨x.lead.toChar, rfl, .inr (Numeral.isDigit_toChar x.lead)⟩
          | negSucc e => exact ⟨'0', rfl, .inr rfl⟩
      | false => exact ⟨x.lead.toChar, rfl, .inr (Numeral.isDigit_toChar x.lead)⟩

/-! ## Numbers that stand alone -/

/-- Where a number may start, the word is a number. -/
theorem next_of_startsNumber {cs : List Char} (starts : StartsNumber cs) :
    Token.next cs = do
      let (literal, rest) ← Literal.take cs
      return (.scalar (.number (← literal.number?)), rest) := by
  obtain ⟨c, first, kind⟩ := starts
  cases cs with
  | nil => cases first
  | cons head cs =>
      cases first
      rcases kind with rfl | digit
      · exact next_of_minus cs
      · rw [next_of_isDigit digit, Literal.take]
        rintro _ ⟨⟩
        cases digit

/-- A text without any word is blank. -/
theorem isBlank_of_scan_eq_nil {cs : List Char} (scanned : Token.scan cs = some []) :
    ∀ c ∈ cs, isBlank c = true := by
  fun_induction Token.scan cs
  case case1 => exact List.forall_mem_nil _
  case case2 c cs blank ih => exact List.forall_mem_cons.2 ⟨blank, ih scanned⟩
  case case3 => cases scanned
  case case4 =>
    obtain ⟨_, _, same⟩ := Option.map_eq_some_iff.1 scanned
    cases same

theorem exists_next_of_scan {c : Char} {cs : List Char} {words : List Token} (plain : isBlank c = false)
    (scanned : Token.scan (c :: cs) = some words) :
    ∃ t rest later, Token.next (c :: cs) = some (t, rest) ∧ Token.scan rest = some later ∧ words = t :: later := by
  cases found : Token.next (c :: cs) with
  | none =>
      rw [Token.scan, plain, if_neg Bool.false_ne_true] at scanned
      split at scanned
      · cases scanned
      · rename_i there
        rw [there] at found
        cases found
  | some p =>
      rw [scan_of_next found] at scanned
      obtain ⟨later, behind, rfl⟩ := Option.map_eq_some_iff.1 scanned
      exact ⟨p.1, p.2, later, rfl, behind, rfl⟩

/-- Words that start with a scalar and denote a value are this scalar and nothing else. -/
theorem eq_of_ofTokens?_scalar {v w : Json} {words : List Token}
    (denoted : ofTokens? (.scalar v :: words) = some w) : words = [] ∧ v = w := by
  cases words with
  | nil =>
      cases denoted
      exact ⟨rfl, rfl⟩
  | cons t words => cases t <;> cases denoted

/-- A text that shows no blank and starts as numbers do is one number, if it denotes a number. -/
theorem take_of_parse? {cs : List Char} {n : Number} (starts : StartsNumber cs) (plain : NoBlank cs)
    (read : parse? (String.ofList cs) = some (.number n)) :
    ∃ literal, Literal.take cs = some (literal, []) ∧ literal.number? = some n := by
  obtain ⟨words, scanned, denoted⟩ := Option.bind_eq_some_iff.1 read
  rw [String.toList_ofList] at scanned
  obtain ⟨c, more, rfl⟩ : ∃ c more, cs = c :: more := by
    obtain ⟨c, head, -⟩ := starts
    exact ⟨c, _, List.eq_cons_of_mem_head? head⟩
  obtain ⟨t, left, later, found, behind, rfl⟩ := exists_next_of_scan (plain c List.mem_cons_self) scanned
  rw [next_of_startsNumber starts] at found
  obtain ⟨⟨literal, rest⟩, taken, made⟩ := Option.bind_eq_some_iff.1 found
  obtain ⟨number, value, same⟩ := Option.bind_eq_some_iff.1 made
  obtain ⟨rfl, rfl⟩ := Prod.mk.inj (Option.some.inj same)
  obtain ⟨rfl, same⟩ := eq_of_ofTokens?_scalar denoted
  cases same
  -- what is left is blank, but it is part of a text without blanks
  have nothing : rest = [] := by
    refine List.eq_nil_iff_forall_not_mem.2 fun c member => ?_
    have blank := isBlank_of_scan_eq_nil behind c member
    rw [plain c ((take_stands taken).1.mem member)] at blank
    cases blank
  subst nothing
  exact ⟨literal, taken, value⟩

/-- **A float is read wherever its text stands**, if it is read from this text alone. -/
theorem readsBack_float {x : Numeral.Binary64}
    (read : parse? (Json.number (.float x)).compact = some (.number (.float x))) :
    (Number.float x).ReadsBack := by
  have starts := startsNumber_text floatLayout x.shortest
  obtain ⟨literal, taken, value⟩ := take_of_parse? starts (noBlank_text floatLayout x.shortest) read
  intro rest ends
  obtain ⟨-, more⟩ := take_stands taken
  have whole : StartsNumber (floatLayout.text x.shortest ++ rest) := by
    obtain ⟨c, first, kind⟩ := starts
    exact ⟨c, by rw [List.head?_append, Option.mem_def.1 first]; rfl, kind⟩
  rw [Number.chars, next_of_startsNumber whole, more rest ends]
  simp only [Option.bind_eq_bind, Option.bind_some, value, List.nil_append, Option.pure_def]

end Responder.Json
