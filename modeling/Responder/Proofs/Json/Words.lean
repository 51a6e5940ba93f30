/-
# Responder.Proofs.Json.Words -- the words of compact text

Every value has the words that its compact text shows (`words`).  Scanning finds
them whatever stands behind the text, as long as it does not go on with a number
(`Writable.shows`): strings come back out of their escapes character by
character (`takeString_escapeChar`), and integers out of their digits
(`readsBack_integer`).
-/
import Mathlib.Data.Fintype.Basic
import Mathlib.Tactic.FinCases
import Responder.Json.Printer
import Responder.Json.Token
import Responder.Proofs.Numeral.Digits

namespace Responder.Json

set_option autoImplicit false

/-! ## Strings -/

theorem hexWord?_hexDigit : ∀ n < 0x20, hexWord? '0' '0' (hexDigit (n / 16)) (hexDigit (n % 16)) = some n := by
  decide

theorem charOf?_toNat (c : Char) : charOf? c.toNat = some c := dif_pos c.valid

/-- What stands for a character in a string is read as this character. -/
theorem takeString_escapeChar (c : Char) (rest : List Char) :
    takeString (escapeChar c ++ rest) = (takeString rest).map fun (s, r) => (c :: s, r) := by
  fun_cases escapeChar c
  -- the short escapes and the quote are closed terms; a control character is four digits of which the
  -- last two vary, and what stands for itself is neither a quote nor a backslash
  case case8 control =>
    have word := hexWord?_hexDigit c.toNat control
    simp only [List.cons_append, List.nil_append]
    rw [takeString]
    simp only [word, charOf?_toNat]
  case case9 noQuote noBackslash _ _ _ _ _ plain =>
    rw [List.singleton_append, takeString]
    · rw [if_neg plain]
    · exact fun same => noQuote same
    · exact fun _ _ _ _ _ same _ => noBackslash same
    · exact fun _ _ same _ => noBackslash same
  all_goals
    subst c
    rfl

theorem takeString_escaped (cs rest : List Char) :
    takeString (cs.flatMap escapeChar ++ '"' :: rest) = some (cs, rest) := by
  induction cs with
  | nil => rfl
  | cons c cs ih => rw [List.flatMap_cons, List.append_assoc, takeString_escapeChar, ih]; rfl

/-! ## Numbers -/

/-- What may stand behind a number: nothing that would go on with it. -/
def NumberEnds (rest : List Char) : Prop :=
  ∀ c ∈ rest.head?, Numeral.isDigit c = false ∧ c ≠ '.' ∧ c ≠ 'e' ∧ c ≠ 'E'

/-- Whether a number's text is read as this number, whatever stands behind it. -/
def Number.ReadsBack (n : Number) : Prop :=
  ∀ rest, NumberEnds rest → Token.next (n.chars ++ rest) = some (.scalar (.number n), rest)

theorem takeFraction_of_numberEnds {rest : List Char} (ends : NumberEnds rest) :
    Literal.takeFraction rest = some (none, rest) := by
  unfold Literal.takeFraction
  split
  · exact absurd rfl (ends '.' rfl).2.1
  · rfl

theorem takeExponent_of_numberEnds {rest : List Char} (ends : NumberEnds rest) :
    Literal.takeExponent rest = some (none, rest) := by
  unfold Literal.takeExponent
  split
  · rename_i c cs
    have other := ends c rfl
    rw [if_neg (not_or.2 other.2.2)]
  · rfl

theorem takeUnsigned_natText (negative : Bool) (n : Nat) {rest : List Char} (ends : NumberEnds rest) :
    Literal.takeUnsigned negative (Numeral.natText n ++ rest) =
      some (⟨negative, Numeral.digits n, none, none⟩, rest) := by
  have stops : Numeral.NoDigitFirst rest := fun c first => (ends c first).1
  have spanned : Numeral.spanDigits (Numeral.natText n ++ rest) = (Numeral.digits n, rest) :=
    Numeral.spanDigits_chars_append _ stops
  unfold Literal.takeUnsigned
  rw [spanned]
  cases written : Numeral.digits n with
  | nil => exact absurd written (Numeral.digits_ne_nil n)
  | cons d ds =>
      have noZero : ¬(d = 0 ∧ ds ≠ []) := by
        rintro ⟨rfl, more⟩
        exact more (Numeral.eq_nil_of_digits_eq_zero_cons written)
      simp only [if_neg noZero, takeFraction_of_numberEnds ends, Option.bind_eq_bind, Option.bind_some,
        takeExponent_of_numberEnds ends, Option.pure_def]

/-- Where a digit stands, a number is read. -/
theorem next_of_isDigit {c : Char} (digit : Numeral.isDigit c) (cs : List Char) :
    Token.next (c :: cs) = do
      let (literal, rest) ← Literal.takeUnsigned false (c :: cs)
      return (.scalar (.number (← literal.number?)), rest) := by
  obtain ⟨d, rfl⟩ := Numeral.exists_toChar_of_isDigit digit
  fin_cases d <;> rfl

theorem next_of_minus (cs : List Char) :
    Token.next ('-' :: cs) = do
      let (literal, rest) ← Literal.takeUnsigned true cs
      return (.scalar (.number (← literal.number?)), rest) := rfl

theorem ofInt?_eq_some {i : Int} (inRange : -2 ^ 63 ≤ i ∧ i < 2 ^ 64) :
    Number.ofInt? i = some (.integer i inRange) := dif_pos inRange

theorem number?_digits {n : Nat} (small : n < 2 ^ 64) :
    Literal.number? ⟨false, Numeral.digits n, none, none⟩ = Number.ofInt? n := by
  simp only [Literal.number?, Numeral.ofDigits_digits, Bool.false_eq_true, if_false, if_pos small]

theorem number?_minus_digits {n : Nat} (positive : n ≠ 0) (small : n ≤ 2 ^ 63) :
    Literal.number? ⟨true, Numeral.digits n, none, none⟩ = Number.ofInt? (-n) := by
  simp only [Literal.number?, Numeral.ofDigits_digits, if_true, if_pos (And.intro positive small)]

/-- Every integer is read back from its numeral. -/
theorem readsBack_integer (i : Int) (inRange : -2 ^ 63 ≤ i ∧ i < 2 ^ 64) :
    (Number.integer i inRange).ReadsBack := by
  intro rest ends
  -- by the sign, since the limits are apart: a negative numeral is bounded by `2 ^ 63`, the other by `2 ^ 64`
  cases i with
  | ofNat n =>
      have upper : (n : Int) < 2 ^ 64 := inRange.2
      obtain ⟨c, cs, shown⟩ := List.exists_cons_of_ne_nil (Numeral.natText_ne_nil n)
      have digit : Numeral.isDigit c := Numeral.isDigit_of_mem_natText (shown ▸ List.mem_cons_self)
      have value : Literal.number? ⟨false, Numeral.digits n, none, none⟩ = some (.integer n inRange) :=
        (number?_digits (by omega)).trans (ofInt?_eq_some inRange)
      have read := next_of_isDigit digit (cs ++ rest)
      rw [← List.cons_append, ← shown, takeUnsigned_natText false n ends] at read
      refine read.trans ?_
      simp only [Option.bind_eq_bind, Option.bind_some, value]
      rfl
  | negSucc n =>
      have lower : -2 ^ 63 ≤ -((n + 1 : Nat) : Int) := inRange.1
      have value : Literal.number? ⟨true, Numeral.digits (n + 1), none, none⟩ =
          some (.integer (Int.negSucc n) inRange) :=
        (number?_minus_digits (Nat.succ_ne_zero n) (by omega)).trans (ofInt?_eq_some inRange)
      have read := next_of_minus (Numeral.natText (n + 1) ++ rest)
      rw [takeUnsigned_natText true (n + 1) ends] at read
      refine read.trans ?_
      simp only [Option.bind_eq_bind, Option.bind_some, value]
      rfl

/-! ## Values -/

mutual

/-- The words of a value's compact text. -/
def words : Json → List Token
  | .null => [.scalar .null]
  | .bool b => [.scalar (.bool b)]
  | .number n => [.scalar (.number n)]
  | .string s => [.string s]
  | .array items => .openArray :: (itemWords items ++ [.closeArray])
  | .object members => .openObject :: (memberWords members ++ [.closeObject])

/-- The words of items with commas between them. -/
def itemWords : List Json → List Token
  | [] => []
  | item :: rest => words item ++ moreItemWords rest

/-- The words of items with a comma before each. -/
def moreItemWords : List Json → List Token
  | [] => []
  | item :: rest => .comma :: (words item ++ moreItemWords rest)

/-- The words of members with commas between them. -/
def memberWords : List (String × Json) → List Token
  | [] => []
  | (key, value) :: rest => .string key :: .colon :: (words value ++ moreMemberWords rest)

/-- The words of members with a comma before each. -/
def moreMemberWords : List (String × Json) → List Token
  | [] => []
  | (key, value) :: rest => .comma :: .string key :: .colon :: (words value ++ moreMemberWords rest)

end

/-- Values that can be written and read back with so many containers inside one another: numbers are
read back, and objects have their members in order of key. -/
inductive Writable : Nat → Json → Prop where
  | null {room : Nat} : Writable room .null
  | bool {room : Nat} (b : Bool) : Writable room (.bool b)
  | number {room : Nat} {n : Number} (reads : n.ReadsBack) : Writable room (.number n)
  | string {room : Nat} (s : String) : Writable room (.string s)
  | array {room : Nat} {items : List Json} (each : ∀ item ∈ items, Writable room item) :
      Writable (room + 1) (.array items)
  | object {room : Nat} {members : Members} (sorted : (members.map Prod.fst).Pairwise (· < ·))
      (each : ∀ m ∈ members, Writable room m.2) : Writable (room + 1) (.object members)

/-! ## Scanning -/

theorem isBlank_eq_false_of_next {c : Char} {cs : List Char} {p : Token × List Char}
    (found : Token.next (c :: cs) = some p) : isBlank c = false := by
  by_contra blank
  have among : c = ' ' ∨ c = '\t' ∨ c = '\n' ∨ c = '\r' := by
    simpa only [isBlank, Bool.not_eq_false, Bool.or_eq_true, decide_eq_true_eq, or_assoc] using blank
  rcases among with rfl | rfl | rfl | rfl <;> cases found

/-- The word at the start of a text is the first of its words. -/
theorem scan_of_next {cs rest : List Char} {t : Token} (found : Token.next cs = some (t, rest)) :
    Token.scan cs = (Token.scan rest).map (t :: ·) := by
  cases cs with
  | nil => cases found
  | cons c cs =>
      rw [Token.scan, isBlank_eq_false_of_next found, if_neg Bool.false_ne_true]
      split
      · rename_i missing
        rw [missing] at found
        cases found
      · rename_i t' rest' there
        rw [there] at found
        cases found
        rfl

/-- Whether a text has these words, whatever stands behind it that does not go on with a number. -/
def Shows (cs : List Char) (ts : List Token) : Prop :=
  ∀ rest, NumberEnds rest → Token.scan (cs ++ rest) = (Token.scan rest).map (ts ++ ·)

theorem numberEnds_cons {c : Char} (mark : Numeral.isDigit c = false ∧ c ≠ '.' ∧ c ≠ 'e' ∧ c ≠ 'E')
    (cs : List Char) : NumberEnds (c :: cs) := by
  rintro c' ⟨⟩
  exact mark

theorem numberEnds_moreItemChars (items : List Json) (rest : List Char) :
    NumberEnds (moreItemChars items ++ ']' :: rest) := by
  cases items <;> exact numberEnds_cons (by decide) _

theorem numberEnds_moreMemberChars (members : Members) (rest : List Char) :
    NumberEnds (moreMemberChars members ++ '\x7d' :: rest) := by
  cases members <;> exact numberEnds_cons (by decide) _

theorem scan_stringChars (s : String) (rest : List Char) :
    Token.scan (stringChars s ++ rest) = (Token.scan rest).map (.string s :: ·) := by
  have body := takeString_escaped s.toList rest
  refine scan_of_next ?_
  rw [stringChars, List.cons_append, List.append_assoc, List.singleton_append, Token.next, body]
  simp

theorem scan_moreItemChars {items : List Json} (each : ∀ item ∈ items, Shows item.chars item.words)
    (rest : List Char) :
    Token.scan (moreItemChars items ++ ']' :: rest) =
      (Token.scan rest).map (moreItemWords items ++ .closeArray :: ·) := by
  induction items with
  | nil => exact scan_of_next rfl
  | cons item items ih =>
      have later := ih fun other member => each other (List.mem_cons_of_mem _ member)
      rw [moreItemChars, List.cons_append, List.append_assoc, scan_of_next (t := .comma) rfl,
        each item List.mem_cons_self _ (numberEnds_moreItemChars items rest), later, Option.map_map,
        Option.map_map]
      simp [moreItemWords, Function.comp_def]

theorem scan_moreMemberChars {members : Members} (each : ∀ m ∈ members, Shows m.2.chars m.2.words)
    (rest : List Char) :
    Token.scan (moreMemberChars members ++ '\x7d' :: rest) =
      (Token.scan rest).map (moreMemberWords members ++ .closeObject :: ·) := by
  induction members with
  | nil => exact scan_of_next rfl
  | cons m members ih =>
      obtain ⟨key, value⟩ := m
      have later := ih fun other member => each other (List.mem_cons_of_mem _ member)
      rw [moreMemberChars, List.cons_append, List.append_assoc, scan_of_next (t := .comma) rfl,
        scan_stringChars, List.cons_append, List.append_assoc, scan_of_next (t := .colon) rfl,
        each (key, value) List.mem_cons_self _ (numberEnds_moreMemberChars members rest), later]
      simp [moreMemberWords, Function.comp_def]

theorem shows_itemChars {items : List Json} (each : ∀ item ∈ items, Shows item.chars item.words) :
    Shows ('[' :: (itemChars items ++ [']'])) (.openArray :: (itemWords items ++ [.closeArray])) := by
  intro rest _
  rw [List.cons_append, List.append_assoc, List.singleton_append, scan_of_next (t := .openArray) rfl]
  cases items with
  | nil =>
      rw [itemChars, List.nil_append, scan_of_next (t := .closeArray) rfl]
      simp [itemWords, Function.comp_def]
  | cons item items =>
      have later := scan_moreItemChars (fun other member => each other (List.mem_cons_of_mem _ member)) rest
      rw [itemChars, List.append_assoc,
        each item List.mem_cons_self _ (numberEnds_moreItemChars items rest), later]
      simp [itemWords, Function.comp_def]

theorem shows_memberChars {members : Members} (each : ∀ m ∈ members, Shows m.2.chars m.2.words) :
    Shows ('\x7b' :: (memberChars members ++ ['\x7d']))
      (.openObject :: (memberWords members ++ [.closeObject])) := by
  intro rest _
  rw [List.cons_append, List.append_assoc, List.singleton_append, scan_of_next (t := .openObject) rfl]
  cases members with
  | nil =>
      rw [memberChars, List.nil_append, scan_of_next (t := .closeObject) rfl]
      simp [memberWords, Function.comp_def]
  | cons m members =>
      obtain ⟨key, value⟩ := m
      have later := scan_moreMemberChars (fun other member => each other (List.mem_cons_of_mem _ member)) rest
      rw [memberChars, List.append_assoc, scan_stringChars, List.cons_append, List.append_assoc,
        scan_of_next (t := .colon) rfl,
        each (key, value) List.mem_cons_self _ (numberEnds_moreMemberChars members rest), later]
      simp [memberWords, Function.comp_def]

/-- **Scanning a compact text finds the words of its value.** -/
theorem Writable.shows {room : Nat} {v : Json} (writable : Writable room v) : Shows v.chars v.words := by
  induction writable with
  | null => exact fun rest _ => scan_of_next rfl
  | bool b => cases b <;> exact fun rest _ => scan_of_next rfl
  | number reads => exact fun rest ends => scan_of_next (reads rest ends)
  | string s => exact fun rest _ => scan_stringChars s rest
  | array each ih => exact shows_itemChars ih
  | object sorted each ih => exact shows_memberChars ih

end Responder.Json
