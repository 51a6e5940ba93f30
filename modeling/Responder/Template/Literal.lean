/-
# Responder.Template.Literal -- names, numbers and strings in actions

The words of an action that are longer than one character.  Each function takes
the source from the word on and gives the word's value and the source after it.
A number takes every character that could belong to one, and only then must be
a number as a whole; an integer must fit 64 bits with a sign, and anything with
a point or an exponent is the nearest binary64 number.
-/
import Responder.Template.Token
import Responder.Text.Letter

namespace Responder.Template

set_option autoImplicit false

/-! ## Names -/

/-- Whether a name may start with a character. -/
def startsName (c : Char) : Bool := Text.isLetter c || c == '_'

/-- Whether a name may go on with a character. -/
def continuesName (c : Char) : Bool := Text.isLetterOrNumber c || c == '_'

/-- The name at the start of a text and what follows it. -/
def takeName (cs : List Char) : List Char × List Char :=
  (cs.takeWhile continuesName, cs.dropWhile continuesName)

theorem takeName_append (cs : List Char) : (takeName cs).1 ++ (takeName cs).2 = cs :=
  List.takeWhile_append_dropWhile

/-- The names of a chain: each is led by a dot. -/
def takeChain (cs : List Char) : List String × List Char :=
  match cs with
  | '.' :: c :: rest =>
    if startsName c then
      let (names, after) := takeChain (takeName rest).2
      (String.ofList (c :: (takeName rest).1) :: names, after)
    else ([], cs)
  | _ => ([], cs)
termination_by cs.length
decreasing_by
  have := congrArg List.length (takeName_append rest)
  simp only [List.length_append] at this
  simp only [List.length_cons]
  omega

/-- What a name that stands alone means: three are literals. -/
def wordToken (name : List Char) : Token :=
  if name = ['t', 'r', 'u', 'e'] then .bool true
  else if name = ['f', 'a', 'l', 's', 'e'] then .bool false
  else if name = ['n', 'i', 'l'] then .nil
  else .name (String.ofList name)

/-! ## Numbers -/

/-- The characters that could belong to a number, after the character `before`. -/
def takeNumberChars (before : Char) : List Char → List Char × List Char
  | [] => ([], [])
  | c :: rest =>
    if Numeral.isDigit c || c == '.' || c == 'e' || c == 'E' ||
        ((c == '-' || c == '+') && (before == 'e' || before == 'E')) then
      let (taken, after) := takeNumberChars c rest
      (c :: taken, after)
    else ([], c :: rest)

/-- Whether a word is meant as a number with a point or an exponent. -/
def looksFractional (body : List Char) : Bool :=
  body.any fun c => c == '.' || c == 'e' || c == 'E'

/-- The digits after a point, if there is one. -/
def fractionDigits : List Char → List Numeral.Digit × List Char
  | '.' :: rest => Numeral.spanDigits rest
  | rest => ([], rest)

/-- The digits of an exponent, at least one, and nothing after them. -/
def exponentDigits? (negative : Bool) (cs : List Char) : Option Int :=
  match Numeral.spanDigits cs with
  | ([], _) => none
  | (ds, []) => some (if negative then -(Numeral.ofDigits ds : Int) else Numeral.ofDigits ds)
  | _ => none

/-- The exponent that ends a word: zero when there is none. -/
def exponentPart? : List Char → Option Int
  | [] => some 0
  | c :: rest =>
    if c = 'e' ∨ c = 'E' then
      match rest with
      | '-' :: r => exponentDigits? true r
      | '+' :: r => exponentDigits? false r
      | r => exponentDigits? false r
    else none

/-- The binary64 number nearest to an unsigned decimal. -/
def float? (negative : Bool) (body : List Char) : Option Numeral.Binary64 :=
  let (whole, rest) := Numeral.spanDigits body
  let (fraction, rest) := fractionDigits rest
  if whole = [] ∧ fraction = [] then none
  else do
    let exponent ← exponentPart? rest
    Numeral.Binary64.ofScientific negative (Numeral.ofDigits (whole ++ fraction))
      (exponent - fraction.length)

/-- The integer that digits and a sign denote, if it fits 64 bits. -/
def integer? (negative : Bool) (body : List Char) : Option Json.Number :=
  match Numeral.spanDigits body with
  | (ds, []) =>
    let i : Int := if negative then -(Numeral.ofDigits ds : Int) else Numeral.ofDigits ds
    if -2 ^ 63 ≤ i ∧ i < 2 ^ 63 then Json.Number.ofInt? i else none
  | _ => none

/-- The value of a number's sign and body. -/
def number? (negative : Bool) (body : List Char) : Option Json.Number :=
  if looksFractional body then (float? negative body).map .float else integer? negative body

/-- The sign at the start of a number, if there is one. -/
def takeSign : List Char → List Char × List Char
  | '-' :: rest => (['-'], rest)
  | '+' :: rest => (['+'], rest)
  | cs => ([], cs)

/-- Whether a number starts here: a digit, or a sign and a digit. -/
def startsNumber : List Char → Bool
  | c :: rest =>
    Numeral.isDigit c || ((c == '-' || c == '+') && rest.head?.any Numeral.isDigit)
  | [] => false

/-- The number at the start of a text. -/
def takeNumber (offset : Nat) (cs : List Char) : Except Flaw (Token × List Char) :=
  let (sign, rest) := takeSign cs
  let (body, after) := takeNumberChars ' ' rest
  match number? (sign == ['-']) body with
  | some n => .ok (.number n, after)
  | none => .error ⟨offset, .badNumber (String.ofList (sign ++ body))⟩

/-! ## Strings -/

/-- The character that an escape in a string stands for. -/
def escape? : Char → Option Char
  | 'n' => some '\n'
  | 't' => some '\t'
  | 'r' => some '\r'
  | '\\' => some '\\'
  | '"' => some '"'
  | '\'' => some '\''
  | _ => none

/-- The rest of a string that was opened at `start`, read at `offset`: the
characters it denotes, and what follows its closing quote. -/
def takeString (start : Nat) : Nat → List Char → Except Flaw (List Char × List Char)
  | _, [] => .error ⟨start, .unclosedString⟩
  | _, '"' :: rest => .ok ([], rest)
  | _, '\n' :: _ => .error ⟨start, .unclosedString⟩
  | offset, '\\' :: c :: rest =>
    match escape? c with
    | some e => (takeString start (offset + 2) rest).map fun (s, r) => (e :: s, r)
    | none => .error ⟨offset, .unknownEscape⟩
  | offset, c :: rest =>
    if c = '\\' then .error ⟨offset, .unknownEscape⟩
    else (takeString start (offset + c.utf8Size) rest).map fun (s, r) => (c :: s, r)

/-- The text up to a back quote, and what follows it. -/
def takeRaw : List Char → Option (List Char × List Char)
  | [] => none
  | c :: rest =>
    if c = '\x60' then some ([], rest) else (takeRaw rest).map fun (s, r) => (c :: s, r)

/-! ## Any token -/

/-- The token at the start of a text that starts with no blank. -/
def takeToken (offset : Nat) (cs : List Char) : Except Flaw (Token × List Char) :=
  match cs with
  | [] => .error ⟨offset, .unclosedAction⟩
  | c :: rest =>
    if c = '.' then
      match takeChain cs with
      | ([], _) => .ok (.dot, rest)
      | (names, after) => .ok (.chain names, after)
    else if c = '"' then
      (takeString offset (offset + 1) rest).map fun (s, r) => (.text (String.ofList s), r)
    else if c = '\x60' then
      match takeRaw rest with
      | some (s, r) => .ok (.text (String.ofList s), r)
      | none => .error ⟨offset, .unclosedRawString⟩
    else if c = '|' then .ok (.pipe, rest)
    else if c = '(' then .ok (.openParen, rest)
    else if c = ')' then .ok (.closeParen, rest)
    else if startsNumber cs then takeNumber offset cs
    else if startsName c then
      .ok (wordToken (c :: (takeName rest).1), (takeName rest).2)
    else .error ⟨offset, .unexpectedChar c⟩

/-! Every token takes at least one character. -/

theorem takeName_length (cs : List Char) : (takeName cs).2.length ≤ cs.length := by
  have := congrArg List.length (takeName_append cs)
  simp only [List.length_append] at this
  omega

theorem takeChain_length (cs : List Char) : (takeChain cs).2.length ≤ cs.length := by
  fun_induction takeChain cs with
  | case1 c rest _ names after eq ih =>
    have := takeName_length rest
    rw [eq] at ih
    simp only [List.length_cons] at ih ⊢
    omega
  | case2 => exact Nat.le_refl _
  | case3 => exact Nat.le_refl _

theorem takeChain_length_lt {cs : List Char} (h : (takeChain cs).1 ≠ []) :
    (takeChain cs).2.length < cs.length := by
  unfold takeChain at h ⊢
  split
  · split
    · rename_i c rest _
      have tail := takeChain_length (takeName rest).2
      have := takeName_length rest
      simp only [List.length_cons]
      omega
    · rename_i no
      simp [no] at h
  · rename_i no
    exfalso
    apply h
    split
    · exact absurd rfl (no _ _)
    · rfl

theorem takeNumberChars_length (before : Char) (cs : List Char) :
    (takeNumberChars before cs).1.length + (takeNumberChars before cs).2.length = cs.length := by
  induction cs generalizing before with
  | nil => rfl
  | cons c rest ih =>
    have := ih c
    simp only [takeNumberChars]
    split <;> simp only [List.length_cons, List.length_nil] <;> omega

theorem takeNumber_length {offset : Nat} {cs : List Char} {p : Token × List Char}
    (starts : startsNumber cs) (h : takeNumber offset cs = .ok p) : p.2.length < cs.length := by
  unfold takeNumber at h
  have body (rest : List Char) := takeNumberChars_length ' ' rest
  have first (c : Char) (rest : List Char) (digit : Numeral.isDigit c) :
      (takeNumberChars ' ' (c :: rest)).2.length < (c :: rest).length := by
    have tail := takeNumberChars_length c rest
    simp only [takeNumberChars, digit, Bool.true_or, if_true, List.length_cons]
    omega
  cases cs with
  | nil => simp [startsNumber] at starts
  | cons c rest =>
    simp only at h
    split at h
    · cases h
      simp only
      unfold takeSign
      split
      · rename_i r eq
        have := body r
        cases eq
        simp only [List.length_cons]
        omega
      · rename_i r eq
        have := body r
        cases eq
        simp only [List.length_cons]
        omega
      · rename_i noMinus noPlus
        apply first
        simp only [startsNumber, Bool.or_eq_true, Bool.and_eq_true, beq_iff_eq] at starts
        rcases starts with digit | ⟨rfl | rfl, _⟩
        · exact digit
        · exact absurd rfl (noMinus rest)
        · exact absurd rfl (noPlus rest)
    · cases h

theorem takeString_length {start offset : Nat} {cs : List Char} {p : List Char × List Char}
    (h : takeString start offset cs = .ok p) : p.2.length < cs.length := by
  fun_induction takeString start offset cs generalizing p
  case case1 => cases h
  case case2 => cases h; simp
  case case3 => cases h
  case case4 e _ ih =>
    generalize eq : takeString _ _ _ = result at h ih
    cases result with
    | error => cases h
    | ok q =>
      cases h
      have := ih rfl
      simp only [List.length_cons] at this ⊢
      omega
  case case5 => cases h
  case case6 => cases h
  case case7 ih =>
    generalize eq : takeString _ _ _ = result at h ih
    cases result with
    | error => cases h
    | ok q =>
      cases h
      have := ih rfl
      simp only [List.length_cons] at this ⊢
      omega

theorem takeRaw_length {cs : List Char} {p : List Char × List Char}
    (h : takeRaw cs = some p) : p.2.length < cs.length := by
  induction cs generalizing p with
  | nil => cases h
  | cons c rest ih =>
    simp only [takeRaw] at h
    split at h
    · cases h
      simp
    · obtain ⟨q, hq, rfl⟩ := Option.map_eq_some_iff.1 h
      have := ih hq
      simp only [List.length_cons] at this ⊢
      omega

theorem takeToken_length {offset : Nat} {cs : List Char} {p : Token × List Char}
    (h : takeToken offset cs = .ok p) : p.2.length < cs.length := by
  unfold takeToken at h
  split at h
  · cases h
  · rename_i c rest
    split at h
    · split at h
      · cases h
        simp
      · rename_i names after some eq
        cases h
        have := @takeChain_length_lt (c :: rest) (by rw [eq]; simpa using some)
        rwa [eq] at this
    · split at h
      · generalize eq : takeString _ _ _ = result at h
        cases result with
        | error => cases h
        | ok q =>
          cases h
          have := takeString_length eq
          simp only [List.length_cons]
          omega
      · split at h
        · split at h
          · rename_i eq
            cases h
            have := takeRaw_length eq
            simp only [List.length_cons] at this ⊢
            omega
          · cases h
        · split at h
          · cases h; simp
          · split at h
            · cases h; simp
            · split at h
              · cases h; simp
              · split at h
                · rename_i starts
                  exact takeNumber_length starts h
                · split at h
                  · cases h
                    have := takeName_length rest
                    simp only [List.length_cons]
                    omega
                  · cases h

end Responder.Template
