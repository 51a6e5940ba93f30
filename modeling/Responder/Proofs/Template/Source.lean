/-
# Responder.Proofs.Template.Source -- tokens written as text, and read back

`Token.source` writes a token down: strings in double quotes with the backslash,
the quote and the line break escaped, integers in decimal.  A token is writable
if there is a way to write it: its names are names, its numbers integers of 64
bits with a sign.  Where a blank follows, a writable token is read back whole and
nothing after it is touched (`takeToken_source`), whatever its strings hold.
-/
import Responder.Json.Printer
import Responder.Proofs.Numeral.Digits
import Responder.Template.Segment

namespace Responder.Template

set_option autoImplicit false

/-! ## Tokens as text -/

/-- A character of a string, as it stands between double quotes. -/
def escaped (c : Char) : List Char :=
  if c = '\\' then ['\\', '\\']
  else if c = '"' then ['\\', '"']
  else if c = '\n' then ['\\', 'n']
  else [c]

/-- A token as text. -/
def Token.source : Token → List Char
  | .dot => ['.']
  | .chain names => names.flatMap fun name => '.' :: name.toList
  | .name word => word.toList
  | .text value => '"' :: (value.toList.flatMap escaped ++ ['"'])
  | .number value => value.chars
  | .bool true => ['t', 'r', 'u', 'e']
  | .bool false => ['f', 'a', 'l', 's', 'e']
  | .nil => ['n', 'i', 'l']
  | .pipe => ['|']
  | .openParen => ['(']
  | .closeParen => [')']

/-- Whether a text is a name. -/
def IsName (text : String) : Prop :=
  ∃ c rest, text.toList = c :: rest ∧ startsName c ∧ ∀ d ∈ rest, continuesName d

/-- Whether a token can be written: chains have a name, names that stand alone are
no literals, and numbers are integers of 64 bits with a sign. -/
def Token.Writable : Token → Prop
  | .chain names => names ≠ [] ∧ ∀ name ∈ names, IsName name
  | .name word => IsName word ∧ word ∉ ["true", "false", "nil"]
  | .number (.integer value _) => value < 2 ^ 63
  | .number (.float _) => False
  | _ => True

/-- Whether a blank comes next. -/
def BlankFirst (cs : List Char) : Prop := ∃ c rest, cs = c :: rest ∧ isSpace c = true

/-! ## Characters that start tokens -/

theorem isSpace_cases {c : Char} (space : isSpace c = true) :
    c = ' ' ∨ c = '\t' ∨ c = '\r' ∨ c = '\n' := by
  simpa [isSpace, or_assoc] using space

theorem continuesName_of_isSpace {c : Char} (space : isSpace c = true) : continuesName c = false := by
  obtain rfl | rfl | rfl | rfl := isSpace_cases space <;> decide

theorem isDigit_of_isSpace {c : Char} (space : isSpace c = true) : Numeral.isDigit c = false := by
  obtain rfl | rfl | rfl | rfl := isSpace_cases space <;> decide

theorem startsName_toChar (d : Numeral.Digit) : startsName d.toChar = false := by
  revert d
  decide

theorem startsNumber_of_startsName {c : Char} (starts : startsName c = true) (rest : List Char) :
    startsNumber (c :: rest) = false := by
  have noDigit : Numeral.isDigit c = false := by
    cases digit : Numeral.isDigit c with
    | false => rfl
    | true =>
        obtain ⟨d, rfl⟩ := Numeral.exists_toChar_of_isDigit digit
        rw [startsName_toChar] at starts
        cases starts
  have noSign : c ≠ '-' ∧ c ≠ '+' := by
    constructor <;> rintro rfl <;> exact absurd starts (by decide)
  simp [startsNumber, noDigit, noSign]

/-- No token starts with a blank, a brace or a slash. -/
theorem takeToken_unexpected (offset : Nat) {c : Char} (rest : List Char)
    (odd : isSpace c = true ∨ c = '}' ∨ c = '/') :
    takeToken offset (c :: rest) = .error ⟨offset, .unexpectedChar c⟩ := by
  have noDigit : Numeral.isDigit c = false := by
    obtain space | rfl | rfl := odd
    · exact isDigit_of_isSpace space
    · decide
    · decide
  have noName : startsName c = false := by
    obtain space | rfl | rfl := odd
    · obtain rfl | rfl | rfl | rfl := isSpace_cases space <;> decide
    · decide
    · decide
  obtain (rfl | rfl | rfl | rfl) | rfl | rfl := odd.imp_left isSpace_cases <;>
    simp [takeToken, startsNumber, noDigit, noName]

/-- A minus sign before a brace is no token. -/
theorem takeToken_minus_brace (offset : Nat) (rest : List Char) :
    takeToken offset ('-' :: '}' :: rest) = .error ⟨offset, .unexpectedChar '-'⟩ := by
  have noDigit : Numeral.isDigit '-' = false ∧ Numeral.isDigit '}' = false := by decide
  have noName : startsName '-' = false := by decide
  simp [takeToken, startsNumber, noDigit, noName]

/-- Where a token can be read, no action ends. -/
theorem closing?_of_takeToken {offset : Nat} {cs : List Char} {p : Token × List Char}
    (taken : takeToken offset cs = .ok p) (spaced : Bool) : closing? spaced cs = none := by
  unfold closing?
  split
  · rw [takeToken_unexpected offset _ (.inr (.inl rfl))] at taken
    cases taken
  · rw [takeToken_minus_brace] at taken
    cases taken
  · rfl

/-- Where a token can be read, no blank stands. -/
theorem skipSpace_of_takeToken {offset : Nat} {cs : List Char} {p : Token × List Char}
    (taken : takeToken offset cs = .ok p) : skipSpace cs = cs := by
  cases cs with
  | nil => rfl
  | cons c rest =>
      cases space : isSpace c with
      | false => simp [skipSpace, space]
      | true =>
          rw [takeToken_unexpected offset rest (.inl space)] at taken
          cases taken

/-! ## Names -/

/-- What does not go on a name. -/
def NameEnds (cs : List Char) : Prop := ∀ c ∈ cs.head?, continuesName c = false

theorem nameEnds_of_blankFirst {cs : List Char} (blank : BlankFirst cs) : NameEnds cs := by
  obtain ⟨c, rest, rfl, space⟩ := blank
  simpa [NameEnds] using continuesName_of_isSpace space

theorem takeName_append_of_ends {name rest : List Char} (continues : ∀ c ∈ name, continuesName c)
    (ends : NameEnds rest) : takeName (name ++ rest) = (name, rest) := by
  have stop : rest.takeWhile continuesName = [] ∧ rest.dropWhile continuesName = rest := by
    cases rest with
    | nil => exact ⟨rfl, rfl⟩
    | cons c cs =>
        have : continuesName c = false := ends c (by simp)
        simp [this]
  rw [takeName, List.takeWhile_append_of_pos continues, List.dropWhile_append_of_pos continues,
    stop.1, stop.2, List.append_nil]

/-- Names with a dot before each are read as a chain. -/
theorem takeChain_source {names : List String} (areNames : ∀ name ∈ names, IsName name)
    {rest : List Char} (blank : BlankFirst rest) :
    takeChain ((names.flatMap fun name => '.' :: name.toList) ++ rest) = (names, rest) := by
  induction names with
  | nil =>
      obtain ⟨c, cs, rfl, space⟩ := blank
      have noDot : c ≠ '.' := by
        rintro rfl
        exact absurd space (by decide)
      rw [List.flatMap_nil, List.nil_append, takeChain.eq_2]
      intro d ds eq
      exact noDot (List.cons.inj eq).1
  | cons name names ih =>
      obtain ⟨c, tail, eq, starts, continues⟩ := areNames name (by simp)
      have ends : NameEnds ((names.flatMap fun name => '.' :: name.toList) ++ rest) := by
        cases names with
        | nil => simpa using nameEnds_of_blankFirst blank
        | cons next names =>
            have : continuesName '.' = false := by decide
            simpa [NameEnds] using this
      have back : String.ofList (c :: tail) = name := by rw [← eq, String.ofList_toList]
      have later := ih fun name member => areNames name (List.mem_cons_of_mem _ member)
      simp only [List.flatMap_cons, eq, List.cons_append, List.append_assoc]
      rw [takeChain, if_pos starts, takeName_append_of_ends continues ends, later, back]

theorem takeToken_word (offset : Nat) (c : Char) (tail : List Char) {rest : List Char}
    (starts : startsName c) (continues : ∀ d ∈ tail, continuesName d)
    (blank : BlankFirst rest) :
    takeToken offset (c :: (tail ++ rest)) = .ok (wordToken (c :: tail), rest) := by
  have taken := takeName_append_of_ends continues (nameEnds_of_blankFirst blank)
  have noNumber := startsNumber_of_startsName starts (tail ++ rest)
  have noMark : c ≠ '.' ∧ c ≠ '"' ∧ c ≠ '\x60' ∧ c ≠ '|' ∧ c ≠ '(' ∧ c ≠ ')' := by
    refine ⟨?_, ?_, ?_, ?_, ?_, ?_⟩ <;> rintro rfl <;> exact absurd starts (by decide)
  obtain ⟨h1, h2, h3, h4, h5, h6⟩ := noMark
  simp [takeToken, h1, h2, h3, h4, h5, h6, noNumber, starts, taken]

/-! ## Numbers -/

/-- What may stand in front of the digits of a number. -/
inductive Sign where
  | unsigned
  | plus
  | minus
  deriving DecidableEq

/-- A sign as text. -/
def Sign.chars : Sign → List Char
  | .unsigned => []
  | .plus => ['+']
  | .minus => ['-']

/-- The integer of a magnitude behind a sign. -/
def Sign.apply : Sign → Nat → Int
  | .minus, n => -(n : Int)
  | _, n => n

/-- The text of digits behind a sign. -/
def Sign.numeral (sign : Sign) (ds : List Numeral.Digit) : List Char :=
  sign.chars ++ ds.map Numeral.Digit.toChar

/-- Digits behind a sign start a number. -/
theorem startsNumber_numeral (sign : Sign) {ds : List Numeral.Digit} (some : ds ≠ [])
    (rest : List Char) : startsNumber (sign.numeral ds ++ rest) = true := by
  cases ds with
  | nil => exact absurd rfl some
  | cons d ds =>
      have digit := Numeral.isDigit_toChar d
      cases sign <;> simp [Sign.numeral, Sign.chars, startsNumber, digit]

theorem takeSign_of_isDigit {c : Char} (digit : Numeral.isDigit c = true) (rest : List Char) :
    takeSign (c :: rest) = ([], c :: rest) := by
  unfold takeSign
  split
  · rename_i eq
    rw [(List.cons.inj eq).1] at digit
    exact absurd digit (by decide)
  · rename_i eq
    rw [(List.cons.inj eq).1] at digit
    exact absurd digit (by decide)
  · rfl

theorem takeSign_numeral (sign : Sign) {ds : List Numeral.Digit} (some : ds ≠ [])
    (rest : List Char) :
    takeSign (sign.numeral ds ++ rest) = (sign.chars, ds.map Numeral.Digit.toChar ++ rest) := by
  cases sign with
  | unsigned =>
      cases ds with
      | nil => exact absurd rfl some
      | cons d ds => exact takeSign_of_isDigit (Numeral.isDigit_toChar d) _
  | plus => rfl
  | minus => rfl

theorem takeNumberChars_digits (before : Char) {ds rest : List Char}
    (digits : ∀ c ∈ ds, Numeral.isDigit c = true) (blank : BlankFirst rest) :
    takeNumberChars before (ds ++ rest) = (ds, rest) := by
  induction ds generalizing before with
  | nil =>
      obtain ⟨c, cs, rfl, space⟩ := blank
      have noDigit := isDigit_of_isSpace space
      obtain rfl | rfl | rfl | rfl := isSpace_cases space <;> simp [takeNumberChars, noDigit]
  | cons c ds ih =>
      have digit := digits c (by simp)
      have later := ih c fun d member => digits d (List.mem_cons_of_mem _ member)
      simp [takeNumberChars, digit, later]

theorem looksFractional_digits (ds : List Numeral.Digit) :
    looksFractional (ds.map Numeral.Digit.toChar) = false := by
  rw [looksFractional, List.any_eq_false]
  intro c member
  have digit := Numeral.isDigit_of_mem_chars member
  have noMark : c ≠ '.' ∧ c ≠ 'e' ∧ c ≠ 'E' := by
    refine ⟨?_, ?_, ?_⟩ <;> rintro rfl <;> exact absurd digit (by decide)
  simp [noMark]

/-- Integers of 64 bits with a sign are among those that a value can hold. -/
theorem range_of_fits {i : Int} (fits : -2 ^ 63 ≤ i ∧ i < 2 ^ 63) : -2 ^ 63 ≤ i ∧ i < 2 ^ 64 :=
  ⟨fits.1, by omega⟩

/-- Digits behind a sign denote an integer, if it fits. -/
theorem number?_digits (sign : Sign) (ds : List Numeral.Digit) {i : Int}
    (value : sign.apply (Numeral.ofDigits ds) = i) :
    number? (sign.chars == ['-']) (ds.map Numeral.Digit.toChar) =
      if fits : -2 ^ 63 ≤ i ∧ i < 2 ^ 63 then some (.integer i (range_of_fits fits)) else none := by
  have signed : (if (sign.chars == ['-']) = true then -(Numeral.ofDigits ds : Int)
      else Numeral.ofDigits ds) = i := by
    rw [← value]
    cases sign <;> rfl
  rw [number?, looksFractional_digits, if_neg Bool.false_ne_true, integer?, Numeral.spanDigits_chars]
  simp only [signed]
  split
  · rename_i fits
    rw [Json.Number.ofInt?, dif_pos (range_of_fits fits)]
  · rfl

/-- Digits behind a sign are taken as one number, and it is an error if that does not fit. -/
theorem takeNumber_numeral (offset : Nat) (sign : Sign) {ds : List Numeral.Digit} (some : ds ≠ [])
    {i : Int} (value : sign.apply (Numeral.ofDigits ds) = i) {rest : List Char}
    (blank : BlankFirst rest) :
    takeNumber offset (sign.numeral ds ++ rest) =
      if fits : -2 ^ 63 ≤ i ∧ i < 2 ^ 63 then .ok (.number (.integer i (range_of_fits fits)), rest)
      else .error ⟨offset, .badNumber (String.ofList (sign.numeral ds))⟩ := by
  have digits : ∀ c ∈ ds.map Numeral.Digit.toChar, Numeral.isDigit c = true :=
    fun c member => Numeral.isDigit_of_mem_chars member
  have taken := takeNumberChars_digits ' ' digits blank
  unfold takeNumber
  simp only [takeSign_numeral sign some, taken, number?_digits sign ds value]
  by_cases fits : -2 ^ 63 ≤ i ∧ i < 2 ^ 63
  · simp only [dif_pos fits]
  · simp only [dif_neg fits]
    rfl

/-- A number with a digit first, or a sign and a digit, is not mistaken for anything else. -/
theorem takeToken_of_startsNumber (offset : Nat) {cs : List Char} (starts : startsNumber cs = true) :
    takeToken offset cs = takeNumber offset cs := by
  cases cs with
  | nil => cases starts
  | cons c rest =>
      have first : Numeral.isDigit c = true ∨ c = '-' ∨ c = '+' := by
        simp only [startsNumber, Bool.or_eq_true, Bool.and_eq_true, beq_iff_eq] at starts
        exact starts.imp_right And.left
      have noMark : c ≠ '.' ∧ c ≠ '"' ∧ c ≠ '\x60' ∧ c ≠ '|' ∧ c ≠ '(' ∧ c ≠ ')' := by
        refine ⟨?_, ?_, ?_, ?_, ?_, ?_⟩ <;> rintro rfl <;> exact absurd first (by decide)
      obtain ⟨h1, h2, h3, h4, h5, h6⟩ := noMark
      simp [takeToken, h1, h2, h3, h4, h5, h6, starts]

theorem takeToken_numeral (offset : Nat) (sign : Sign) {ds : List Numeral.Digit} (some : ds ≠ [])
    {i : Int} (value : sign.apply (Numeral.ofDigits ds) = i) {rest : List Char}
    (blank : BlankFirst rest) :
    takeToken offset (sign.numeral ds ++ rest) =
      if fits : -2 ^ 63 ≤ i ∧ i < 2 ^ 63 then .ok (.number (.integer i (range_of_fits fits)), rest)
      else .error ⟨offset, .badNumber (String.ofList (sign.numeral ds))⟩ := by
  rw [takeToken_of_startsNumber offset (startsNumber_numeral sign some rest)]
  exact takeNumber_numeral offset sign some value blank

/-- The text of an integer is digits behind a sign, and denotes it. -/
theorem exists_numeral_eq_intText (i : Int) :
    ∃ (sign : Sign) (ds : List Numeral.Digit), ds ≠ [] ∧ Numeral.intText i = sign.numeral ds ∧
      sign.apply (Numeral.ofDigits ds) = i := by
  cases i with
  | ofNat n =>
      refine ⟨.unsigned, Numeral.digits n, Numeral.digits_ne_nil n, rfl, ?_⟩
      rw [Numeral.ofDigits_digits]
      rfl
  | negSucc n =>
      refine ⟨.minus, Numeral.digits (n + 1), Numeral.digits_ne_nil (n + 1), rfl, ?_⟩
      rw [Numeral.ofDigits_digits]
      rfl

theorem takeToken_intText (offset : Nat) {i : Int} (low : -2 ^ 63 ≤ i) (high : i < 2 ^ 63)
    {rest : List Char} (blank : BlankFirst rest) :
    takeToken offset (Numeral.intText i ++ rest) = .ok (.number (.integer i ⟨low, by omega⟩), rest) := by
  obtain ⟨sign, ds, some, shown, value⟩ := exists_numeral_eq_intText i
  rw [shown, takeToken_numeral offset sign some value blank, dif_pos ⟨low, high⟩]

/-! ## Strings -/

/-- What stands for a character is read as that character. -/
theorem takeString_escaped_append (start offset : Nat) (c : Char) (rest : List Char) :
    ∃ next, takeString start offset (escaped c ++ rest) =
      (takeString start next rest).map fun (s, r) => (c :: s, r) := by
  unfold escaped
  split
  · rename_i eq
    exact ⟨offset + 2, by simp [takeString, escape?, eq]⟩
  · rename_i noSlash
    split
    · rename_i eq
      exact ⟨offset + 2, by simp [takeString, escape?, eq]⟩
    · rename_i noQuote
      split
      · rename_i eq
        exact ⟨offset + 2, by simp [takeString, escape?, eq]⟩
      · rename_i noBreak
        refine ⟨offset + c.utf8Size, ?_⟩
        rw [List.singleton_append, takeString.eq_5 _ _ _ _ noQuote noBreak, if_neg noSlash]
        intro d ds eq
        exact absurd eq noSlash

/-- What is escaped is read as it was, up to the closing quote. -/
theorem takeString_escaped (start offset : Nat) (value rest : List Char) :
    takeString start offset (value.flatMap escaped ++ '"' :: rest) = .ok (value, rest) := by
  induction value generalizing offset with
  | nil => rfl
  | cons c value ih =>
      obtain ⟨next, read⟩ :=
        takeString_escaped_append start offset c (value.flatMap escaped ++ '"' :: rest)
      rw [List.flatMap_cons, List.append_assoc, read, ih next]
      rfl

/-! ## Any token -/

theorem takeToken_dot (offset : Nat) {rest : List Char} (blank : BlankFirst rest) :
    takeToken offset ('.' :: rest) = .ok (.dot, rest) := by
  obtain ⟨c, cs, rfl, space⟩ := blank
  have noName : startsName c = false := by
    obtain rfl | rfl | rfl | rfl := isSpace_cases space <;> decide
  simp [takeToken, takeChain, noName]

theorem takeToken_chain (offset : Nat) {names : List String} (some : names ≠ [])
    (areNames : ∀ name ∈ names, IsName name) {rest : List Char} (blank : BlankFirst rest) :
    takeToken offset ((Token.chain names).source ++ rest) = .ok (.chain names, rest) := by
  have read := takeChain_source areNames blank
  cases names with
  | nil => exact absurd rfl some
  | cons name names =>
      simp only [List.flatMap_cons, List.cons_append, List.append_assoc] at read
      simp [Token.source, takeToken, read]

theorem wordToken_of_writable {word : String} (writable : (Token.name word).Writable) :
    wordToken word.toList = .name word := by
  have other (literal : String) (member : literal ∈ ["true", "false", "nil"]) :
      word.toList ≠ literal.toList := by
    intro same
    rw [String.toList_inj.1 same] at writable
    exact writable.2 member
  have noTrue : word.toList ≠ ['t', 'r', 'u', 'e'] := other "true" (by simp)
  have noFalse : word.toList ≠ ['f', 'a', 'l', 's', 'e'] := other "false" (by simp)
  have noNil : word.toList ≠ ['n', 'i', 'l'] := other "nil" (by simp)
  rw [wordToken, if_neg noTrue, if_neg noFalse, if_neg noNil, String.ofList_toList]

/-- **A writable token before a blank is read back, and nothing after it is touched.** -/
theorem takeToken_source (offset : Nat) {t : Token} (writable : t.Writable) {rest : List Char}
    (blank : BlankFirst rest) : takeToken offset (t.source ++ rest) = .ok (t, rest) := by
  cases t with
  | dot => exact takeToken_dot offset blank
  | chain names => exact takeToken_chain offset writable.1 writable.2 blank
  | name word =>
      obtain ⟨c, tail, eq, starts, continues⟩ := writable.1
      have read := takeToken_word offset c tail starts continues blank
      rwa [← List.cons_append, ← eq, wordToken_of_writable writable] at read
  | text value =>
      have read := takeString_escaped offset (offset + 1) value.toList rest
      simp [Token.source, takeToken, read, Except.map, String.ofList_toList]
  | number value =>
      cases value with
      | integer i range => exact takeToken_intText offset range.1 writable blank
      | float x => exact writable.elim
  | bool value =>
      cases value with
      | true =>
          exact takeToken_word offset 't' ['r', 'u', 'e'] (by decide) (List.all_eq_true.1 rfl) blank
      | false =>
          exact takeToken_word offset 'f' ['a', 'l', 's', 'e'] (by decide)
            (List.all_eq_true.1 rfl) blank
  | nil => exact takeToken_word offset 'n' ['i', 'l'] (by decide) (List.all_eq_true.1 rfl) blank
  | pipe => simp [Token.source, takeToken]
  | openParen => simp [Token.source, takeToken]
  | closeParen => simp [Token.source, takeToken]

end Responder.Template
