/-
# Responder.Pattern.Cursor -- moving through the text of a pattern

Under the switch that ignores white space, blanks and comments from `#` to the
end of the line may stand between the signs of a pattern.
-/
import Responder.Numeral.Digits
import Responder.Numeral.Power
import Responder.Pattern.Syntax
import Responder.Text.Blank

namespace Responder.Pattern

set_option autoImplicit false

/-- The text after blanks and comments; `inComment` when a comment has begun. -/
def skipIgnored (inComment : Bool) : List Char → List Char
  | [] => []
  | c :: rest =>
    if inComment then skipIgnored (c != '\n') rest
    else if Text.isBlank c then skipIgnored false rest
    else if c = '#' then skipIgnored true rest
    else c :: rest

/-- The text after what the switch lets be ignored. -/
def skip (ignoreSpace : Bool) (cs : List Char) : List Char :=
  if ignoreSpace then skipIgnored false cs else cs

/-- The next sign behind blanks.  A comment does not hide its text here. -/
def peek (ignoreSpace : Bool) (cs : List Char) : Option Char :=
  if ignoreSpace then
    match cs.dropWhile Text.isBlank with
    | '#' :: rest => (rest.dropWhile Text.isBlank).head?
    | cs => cs.head?
  else cs.head?

theorem skipIgnored_length (inComment : Bool) (cs : List Char) :
    (skipIgnored inComment cs).length ≤ cs.length := by
  fun_induction skipIgnored inComment cs
  case case1 => exact Nat.le_refl _
  case case5 => exact Nat.le_refl _
  all_goals
    rename_i ih
    simp only [List.length_cons]
    omega

theorem skip_length (ignoreSpace : Bool) (cs : List Char) :
    (skip ignoreSpace cs).length ≤ cs.length := by
  unfold skip
  split
  · exact skipIgnored_length false cs
  · exact Nat.le_refl _

/-- Characters up to one that `stops`, ignoring what may be ignored between
them, and the text from that one on. -/
def takeUntil (ignoreSpace : Bool) (stops : Char → Bool) (cs : List Char) :
    List Char × List Char :=
  match cs with
  | [] => ([], [])
  | c :: rest =>
    if stops c then ([], c :: rest)
    else
      let (taken, after) := takeUntil ignoreSpace stops (skip ignoreSpace rest)
      (c :: taken, after)
termination_by cs.length
decreasing_by
  have := skip_length ignoreSpace rest
  simp only [List.length_cons]
  omega

/-- The number that a list of hexadecimal digits denotes: none for other
characters, for no digit, and for no character's number. -/
def hexChar? (digits : List Char) : Option Char :=
  if digits = [] ∨ ¬ digits.all fun c => ('0' ≤ c && c ≤ '9') || ('a' ≤ c && c ≤ 'f') || ('A' ≤ c && c ≤ 'F') then
    none
  else
    let n := Text.hexNumber digits
    if h : n.isValidChar then some (Char.ofNatAux n h) else none

/-- The decimal number at the start of a text, with white space around it. -/
def takeDecimal (ignoreSpace : Bool) (cs : List Char) : Option Nat × List Char :=
  let (digits, after) := takeUntil ignoreSpace (fun c => !Numeral.isDigit c)
    (cs.dropWhile Text.isBlank)
  let n := Numeral.ofDigits (digits.filterMap Numeral.Digit.ofChar?)
  (if digits = [] ∨ 2 ^ 32 ≤ n then none else some n, after.dropWhile Text.isBlank)

end Responder.Pattern
