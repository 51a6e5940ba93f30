/-
# Responder.Template.Segment -- splitting source into text and actions

`scan` cuts source at every opening pair of braces and reads the action or
comment there to its closing pair.  Braces inside strings do not count, because
an action ends only between tokens.  The first flaw ends the scan.
-/
import Responder.Template.Literal

namespace Responder.Template

set_option autoImplicit false

/-- The blanks that separate tokens. -/
def isSpace (c : Char) : Bool := c == ' ' || c == '\t' || c == '\r' || c == '\n'

/-- The end of an action, if it stands here: whether the text after it is
trimmed, and the source after it.  The trim marker counts only after a space. -/
def closing? (spaced : Bool) : List Char → Option (Bool × List Char)
  | '}' :: '}' :: rest => some (false, rest)
  | '-' :: '}' :: '}' :: rest => if spaced then some (true, rest) else none
  | _ => none

/-- Source without the spaces at its start. -/
def skipSpace (cs : List Char) : List Char := cs.dropWhile isSpace

theorem skipSpace_length (cs : List Char) : (skipSpace cs).length ≤ cs.length :=
  (List.dropWhile_suffix isSpace).length_le

theorem closing?_length {spaced : Bool} {cs : List Char} {p : Bool × List Char}
    (h : closing? spaced cs = some p) : p.2.length + 2 ≤ cs.length := by
  unfold closing? at h
  split at h
  · cases h
    simp
  · split at h
    · cases h
      simp
    · cases h
  · cases h

/-- The tokens of the action opened at `start`, from a place with no space
before the next token: tokens, whether the text after the action is trimmed,
and the source after it. -/
def actionTokens (start offset : Nat) (spaced : Bool) (cs : List Char) :
    Except Flaw (List Placed × Bool × List Char) :=
  match closing? spaced cs with
  | some (trim, rest) => .ok ([], trim, rest)
  | none =>
    if cs = [] then .error ⟨start, .unclosedAction⟩
    else
      match _h : takeToken offset cs with
      | .error flaw => .error flaw
      | .ok (token, rest) =>
        (actionTokens start (offset + (byteCount cs - byteCount (skipSpace rest)))
          ((skipSpace rest).length < rest.length) (skipSpace rest)).map
          fun (tokens, trim, after) => (⟨token, offset⟩ :: tokens, trim, after)
termination_by cs.length
decreasing_by
  have := takeToken_length _h
  have := skipSpace_length rest
  simp only at *
  omega

theorem actionTokens_length {start offset : Nat} {spaced : Bool} {cs : List Char}
    {p : List Placed × Bool × List Char} (h : actionTokens start offset spaced cs = .ok p) :
    p.2.2.length + 2 ≤ cs.length := by
  fun_induction actionTokens start offset spaced cs generalizing p
  case case1 eq =>
    cases h
    exact closing?_length eq
  case case2 => cases h
  case case3 => cases h
  case case4 token rest taken ih =>
    generalize actionTokens _ _ _ _ = result at h ih
    cases result with
    | error => cases h
    | ok q =>
      obtain ⟨_, _, after⟩ := q
      cases h
      have step := ih rfl
      have := takeToken_length taken
      have := skipSpace_length rest
      simp only at *
      omega

/-- The source after the end of a comment, if it has one. -/
def afterComment : List Char → Option (List Char)
  | '*' :: '/' :: rest => some rest
  | _ :: rest => afterComment rest
  | [] => none

theorem afterComment_length {cs rest : List Char} (h : afterComment cs = some rest) :
    rest.length ≤ cs.length := by
  fun_induction afterComment cs with
  | case1 => cases h; simp; omega
  | case2 _ _ _ ih =>
    have := ih h
    simp only [List.length_cons]
    omega
  | case3 => cases h

/-- The trim marker at the start of an action: a minus sign before a space. -/
def takeTrim : List Char → Bool × List Char
  | '-' :: c :: rest => if isSpace c then (true, c :: rest) else (false, '-' :: c :: rest)
  | cs => (false, cs)

theorem takeTrim_length (cs : List Char) : (takeTrim cs).2.length ≤ cs.length := by
  unfold takeTrim
  split
  · split <;> simp
  · simp

/-- The comment opened at `start`, from behind its opening mark. -/
def comment (start : Nat) (trimLeft : Bool) (body : List Char) :
    Except Flaw (Segment × List Char) :=
  match afterComment body with
  | none => .error ⟨start, .unclosedComment⟩
  | some rest =>
    let next := skipSpace rest
    match closing? (next.length < rest.length) next with
    | some (trimRight, after) => .ok (.comment ⟨trimLeft, trimRight⟩, after)
    | none => .error ⟨start, .textAfterComment⟩

/-- The action or comment opened at `start`, from behind its opening braces. -/
def action (start : Nat) (body : List Char) : Except Flaw (Segment × List Char) :=
  let (trimLeft, rest) := takeTrim body
  match skipSpace rest with
  | '/' :: '*' :: inside => comment start trimLeft inside
  | next =>
    (actionTokens start (start + 2 + (byteCount body - byteCount next))
      (next.length < rest.length) next).map fun (tokens, trimRight, after) =>
        (.action tokens start ⟨trimLeft, trimRight⟩, after)

theorem action_length {start : Nat} {body : List Char} {p : Segment × List Char}
    (h : action start body = .ok p) : p.2.length + 2 ≤ body.length := by
  unfold action at h
  have trimmed := takeTrim_length body
  have spaces := skipSpace_length (takeTrim body).2
  simp only at h
  split at h
  · rename_i inside eq
    rw [eq] at spaces
    simp only [List.length_cons] at spaces
    unfold comment at h
    split at h
    · cases h
    · rename_i rest found
      have tail := afterComment_length found
      have more := skipSpace_length rest
      simp only at h
      split at h
      · rename_i closed
        have := closing?_length closed
        cases h
        simp only at this ⊢
        omega
      · cases h
  · generalize eq : actionTokens _ _ _ _ = result at h
    cases result with
    | error => cases h
    | ok q =>
      obtain ⟨_, _, after⟩ := q
      cases h
      have := actionTokens_length eq
      have : body.length ≥ (takeTrim body).2.length := trimmed
      simp only at *
      omega

/-- The text up to the next opening pair of braces, and what follows the pair
if there is one. -/
def splitOpening : List Char → List Char × Option (List Char)
  | '{' :: '{' :: rest => ([], some rest)
  | c :: rest => (c :: (splitOpening rest).1, (splitOpening rest).2)
  | [] => ([], none)

theorem splitOpening_length {cs rest : List Char} (h : (splitOpening cs).2 = some rest) :
    rest.length + 2 ≤ cs.length := by
  fun_induction splitOpening cs with
  | case1 => cases h; simp
  | case2 _ _ _ ih =>
    have := ih h
    simp only [List.length_cons]
    omega
  | case3 => cases h

/-- A text segment, unless it would be empty. -/
def textSegment (chars : List Char) : List Segment :=
  if chars = [] then [] else [.text chars]

/-- The segments of the source from `offset` on. -/
def scanFrom (offset : Nat) (cs : List Char) : Except Flaw (List Segment) :=
  match _h : (splitOpening cs).2 with
  | none => .ok (textSegment (splitOpening cs).1)
  | some body =>
    let start := offset + byteCount (splitOpening cs).1
    match _h' : action start body with
    | .error flaw => .error flaw
    | .ok (segment, rest) =>
      (scanFrom (start + 2 + (byteCount body - byteCount rest)) rest).map
        fun segments => textSegment (splitOpening cs).1 ++ segment :: segments
termination_by cs.length
decreasing_by
  have := splitOpening_length _h
  have := action_length _h'
  simp only at *
  omega

/-- The segments of a source. -/
def scan (source : List Char) : Except Flaw (List Segment) := scanFrom 0 source

end Responder.Template
