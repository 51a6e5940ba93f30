/-
# Responder.Proofs.Template.Scan -- the scanner, one piece at a time

Equations for each way in which the scanner goes on: a text to the end, an action
or comment behind a text, a flaw, and inside an action one token with the blanks
behind it.
-/
import Responder.Proofs.Template.Source

namespace Responder.Template

set_option autoImplicit false

/-! ## Segments -/

variable {offset : Nat} {cs before body : List Char}

theorem scanFrom_text (opened : splitOpening cs = (before, none)) :
    scanFrom offset cs = .ok (textSegment before) := by
  rw [scanFrom]
  split
  · rw [opened]
  · rename_i some
    rw [opened] at some
    cases some

theorem scanFrom_action {segment : Segment} {rest : List Char}
    (opened : splitOpening cs = (before, some body))
    (read : action (offset + byteCount before) body = .ok (segment, rest)) :
    scanFrom offset cs =
      (scanFrom (offset + byteCount before + 2 + (byteCount body - byteCount rest)) rest).map
        fun segments => textSegment before ++ segment :: segments := by
  rw [scanFrom]
  split
  · rename_i none
    rw [opened] at none
    cases none
  · rename_i found eq
    rw [opened] at eq
    cases eq
    simp only [opened]
    split
    · rename_i failed
      rw [opened, read] at failed
      cases failed
    · rename_i again
      rw [opened, read] at again
      cases again
      rfl

theorem scanFrom_flaw {flaw : Flaw} (opened : splitOpening cs = (before, some body))
    (read : action (offset + byteCount before) body = .error flaw) :
    scanFrom offset cs = .error flaw := by
  rw [scanFrom]
  split
  · rename_i none
    rw [opened] at none
    cases none
  · rename_i found eq
    rw [opened] at eq
    cases eq
    simp only [opened]
    split
    · rename_i failed
      rw [opened, read] at failed
      cases failed
      rfl
    · rename_i again
      rw [opened, read] at again
      cases again

/-! ## Tokens of an action -/

theorem actionTokens_closed {start offset : Nat} {spaced trim : Bool} {cs rest : List Char}
    (closed : closing? spaced cs = some (trim, rest)) :
    actionTokens start offset spaced cs = .ok ([], trim, rest) := by
  rw [actionTokens, closed]

theorem actionTokens_nil (start offset : Nat) (spaced : Bool) :
    actionTokens start offset spaced [] = .error ⟨start, .unclosedAction⟩ := by
  rw [actionTokens]
  rfl

theorem actionTokens_flaw {start offset : Nat} {spaced : Bool} {cs : List Char} {flaw : Flaw}
    (unclosed : closing? spaced cs = none) (some : cs ≠ []) (failed : takeToken offset cs = .error flaw) :
    actionTokens start offset spaced cs = .error flaw := by
  rw [actionTokens, unclosed]
  simp only [if_neg some]
  split
  · rename_i again
    rw [failed] at again
    cases again
    rfl
  · rename_i taken
    rw [failed] at taken
    cases taken

/-- Reading one token of an action and the blanks behind it. -/
theorem actionTokens_cons {start offset : Nat} {spaced : Bool} {cs rest : List Char} {t : Token}
    (taken : takeToken offset cs = .ok (t, rest)) :
    actionTokens start offset spaced cs =
      (actionTokens start (offset + (byteCount cs - byteCount (skipSpace rest)))
        ((skipSpace rest).length < rest.length) (skipSpace rest)).map
          fun (tokens, trim, after) => (⟨t, offset⟩ :: tokens, trim, after) := by
  have nonempty : cs ≠ [] := by
    rintro rfl
    cases taken
  rw [actionTokens, closing?_of_takeToken taken spaced]
  simp only [if_neg nonempty]
  split
  · rename_i failed
    rw [taken] at failed
    cases failed
  · rename_i read
    rw [taken] at read
    cases read
    rfl

end Responder.Template
