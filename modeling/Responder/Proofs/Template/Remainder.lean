/-
# Responder.Proofs.Template.Remainder -- what is left of a source is its end

Whatever the scanner reads stands in front of what it leaves: tokens, actions and
comments leave a suffix of what they were read from (`takeToken_suffix`,
`action_suffix`).  So the place behind an action can be counted from either end of
the source (`place_behind_action`).
-/
import Responder.Proofs.Template.Place

namespace Responder.Template

set_option autoImplicit false

variable {offset : Nat} {cs rest : List Char}

/-! ## Tokens -/

theorem takeName_suffix (cs : List Char) : (takeName cs).2 <:+ cs := List.dropWhile_suffix continuesName

theorem takeChain_suffix (cs : List Char) : (takeChain cs).2 <:+ cs := by
  fun_induction takeChain cs with
  | case1 c rest starts names after eq ih =>
      rw [eq] at ih
      have behindName := ih.trans (takeName_suffix rest)
      exact behindName.trans ((List.suffix_cons c rest).trans (List.suffix_cons '.' (c :: rest)))
  | case2 | case3 => exact List.suffix_rfl

theorem takeNumberChars_suffix (before : Char) (cs : List Char) : (takeNumberChars before cs).2 <:+ cs := by
  induction cs generalizing before with
  | nil => exact List.suffix_rfl
  | cons c cs ih =>
      simp only [takeNumberChars]
      split
      · exact (ih c).trans (List.suffix_cons c cs)
      · exact List.suffix_rfl

theorem takeSign_suffix (cs : List Char) : (takeSign cs).2 <:+ cs := by
  unfold takeSign
  split
  · exact List.suffix_cons _ _
  · exact List.suffix_cons _ _
  · exact List.suffix_rfl

theorem takeNumber_suffix {t : Token} (taken : takeNumber offset cs = .ok (t, rest)) : rest <:+ cs := by
  unfold takeNumber at taken
  dsimp only at taken
  split at taken
  · cases taken
    exact (takeNumberChars_suffix _ _).trans (takeSign_suffix cs)
  · cases taken

theorem takeString_suffix {start : Nat} {s : List Char}
    (taken : takeString start offset cs = .ok (s, rest)) : rest <:+ cs := by
  fun_induction takeString start offset cs generalizing s with
  | case1 | case3 | case5 | case6 => cases taken
  | case2 offset cs =>
      cases taken
      exact List.suffix_cons _ _
  | case4 offset c cs e known ih =>
      obtain ⟨⟨s', r⟩, found, eq⟩ := map_eq_ok_iff.1 taken
      cases eq
      exact (ih found).trans ((List.suffix_cons c cs).trans (List.suffix_cons '\\' (c :: cs)))
  | case7 offset c cs noQuote noBreak noMore noSlash ih =>
      obtain ⟨⟨s', r⟩, found, eq⟩ := map_eq_ok_iff.1 taken
      cases eq
      exact (ih found).trans (List.suffix_cons c cs)

theorem takeRaw_suffix {s : List Char} (taken : takeRaw cs = some (s, rest)) : rest <:+ cs := by
  induction cs generalizing s with
  | nil => cases taken
  | cons c cs ih =>
      simp only [takeRaw] at taken
      split at taken
      · cases taken
        exact List.suffix_cons _ _
      · obtain ⟨⟨s', r⟩, found, eq⟩ := Option.map_eq_some_iff.1 taken
        cases eq
        exact (ih found).trans (List.suffix_cons c cs)

theorem takeToken_suffix {t : Token} (taken : takeToken offset cs = .ok (t, rest)) : rest <:+ cs := by
  cases cs with
  | nil => cases taken
  | cons c cs =>
      have behind {ds : List Char} (suffix : rest <:+ cs) : rest <:+ c :: cs :=
        suffix.trans (List.suffix_cons c cs)
      simp only [takeToken] at taken
      split_ifs at taken with dot quote backQuote pipe openParen closeParen starts name
      · have chain := takeChain_suffix (c :: cs)
        split at taken
        · cases taken
          exact List.suffix_cons c _
        · rename_i eq
          rw [eq] at chain
          cases taken
          exact chain
      · obtain ⟨⟨s, r⟩, found, eq⟩ := map_eq_ok_iff.1 taken
        cases eq
        exact (takeString_suffix found).trans (List.suffix_cons c cs)
      · split at taken
        · rename_i found
          cases taken
          exact (takeRaw_suffix found).trans (List.suffix_cons c cs)
        · cases taken
      · cases taken
        exact List.suffix_cons c _
      · cases taken
        exact List.suffix_cons c _
      · cases taken
        exact List.suffix_cons c _
      · exact takeNumber_suffix taken
      · cases taken
        exact (takeName_suffix cs).trans (List.suffix_cons c cs)

/-! ## Actions and comments -/

/-- Whether a source ends in the braces that close an action and then `rest`. -/
abbrev ClosedBefore (rest cs : List Char) : Prop := '\x7d' :: '\x7d' :: rest <:+ cs

theorem closedBefore_of_closing? {spaced trim : Bool} (closed : closing? spaced cs = some (trim, rest)) :
    ClosedBefore rest cs := by
  unfold closing? at closed
  split at closed
  · cases closed
    exact List.suffix_rfl
  · split at closed
    · cases closed
      exact List.suffix_cons '-' _
    · cases closed
  · cases closed

theorem skipSpace_suffix (cs : List Char) : skipSpace cs <:+ cs := List.dropWhile_suffix isSpace

theorem closedBefore_of_actionTokens {start : Nat} {spaced trim : Bool} {tokens : List Placed}
    (read : actionTokens start offset spaced cs = .ok (tokens, trim, rest)) : ClosedBefore rest cs := by
  fun_induction actionTokens start offset spaced cs generalizing tokens with
  | case1 offset spaced cs trim rest closed =>
      cases read
      exact closedBefore_of_closing? closed
  | case2 | case3 => cases read
  | case4 offset spaced cs unclosed some t behind taken ih =>
      obtain ⟨⟨later, trim', rest'⟩, readLater, eq⟩ := map_eq_ok_iff.1 read
      cases eq
      exact (ih readLater).trans ((skipSpace_suffix behind).trans (takeToken_suffix taken))

theorem afterComment_suffix (found : afterComment cs = some rest) : rest <:+ cs := by
  fun_induction afterComment cs with
  | case1 cs =>
      cases found
      exact ⟨['*', '/'], rfl⟩
  | case2 c cs noEnd ih => exact (ih found).trans (List.suffix_cons c cs)
  | case3 => cases found

theorem takeTrim_suffix (cs : List Char) : (takeTrim cs).2 <:+ cs := by
  unfold takeTrim
  split
  · split
    · exact List.suffix_cons '-' _
    · exact List.suffix_rfl
  · exact List.suffix_rfl

theorem closedBefore_of_comment {start : Nat} {trimLeft : Bool} {segment : Segment}
    (read : comment start trimLeft cs = .ok (segment, rest)) : ClosedBefore rest cs := by
  unfold comment at read
  split at read
  · cases read
  · rename_i behind found
    dsimp only at read
    split at read
    · rename_i trimRight after closed
      cases read
      exact (closedBefore_of_closing? closed).trans ((skipSpace_suffix behind).trans (afterComment_suffix found))
    · cases read

/-- An action or comment leaves what stands behind its closing braces. -/
theorem closedBefore_of_action {start : Nat} {segment : Segment}
    (read : action start cs = .ok (segment, rest)) : ClosedBefore rest cs := by
  have inner := (skipSpace_suffix (takeTrim cs).2).trans (takeTrim_suffix cs)
  unfold action at read
  dsimp only at read
  split at read
  · rename_i inside opened
    rw [opened] at inner
    have behind : inside <:+ '/' :: '*' :: inside := ⟨['/', '*'], rfl⟩
    exact (closedBefore_of_comment read).trans (behind.trans inner)
  · obtain ⟨⟨tokens, trimRight, after⟩, tokensRead, eq⟩ := map_eq_ok_iff.1 read
    cases eq
    exact (closedBefore_of_actionTokens tokensRead).trans inner

/-- An action or comment leaves the end of the source that it was read from. -/
theorem action_suffix {start : Nat} {segment : Segment} (read : action start cs = .ok (segment, rest)) :
    rest <:+ cs :=
  (List.suffix_append ['\x7d', '\x7d'] rest).trans (closedBefore_of_action read)

theorem segment_of_comment {start : Nat} {trimLeft : Bool} {segment : Segment}
    (read : comment start trimLeft cs = .ok (segment, rest)) : ∃ trim, segment = .comment trim := by
  unfold comment at read
  split at read
  · cases read
  · dsimp only at read
    split at read
    · cases read
      exact ⟨_, rfl⟩
    · cases read

/-- What has been read is an action at its place, or a comment. -/
theorem segment_of_action {start : Nat} {segment : Segment} (read : action start cs = .ok (segment, rest)) :
    (∃ trim, segment = .comment trim) ∨ ∃ tokens trim, segment = .action tokens start trim := by
  unfold action at read
  dsimp only at read
  split at read
  · exact .inl (segment_of_comment read)
  · obtain ⟨⟨tokens, trimRight, after⟩, -, eq⟩ := map_eq_ok_iff.1 read
    cases eq
    exact .inr ⟨tokens, _, rfl⟩

/-! ## Places -/

theorem byteCount_le_of_suffix (suffix : rest <:+ cs) : byteCount rest ≤ byteCount cs := by
  obtain ⟨front, rfl⟩ := suffix
  rw [byteCount_append]
  exact Nat.le_add_left _ _

theorem splitOpening_eq {body : List Char} (opened : (splitOpening cs).2 = some body) :
    cs = (splitOpening cs).1 ++ '\x7b' :: '\x7b' :: body := by
  fun_induction splitOpening cs with
  | case1 rest =>
      cases opened
      rfl
  | case2 c cs noOpening ih => exact congrArg (c :: ·) (ih opened)
  | case3 => cases opened

/-- The place behind an action, counted from the front or from the end of the source. -/
theorem place_behind_action {body : List Char} {start : Nat} {segment : Segment}
    (opened : (splitOpening cs).2 = some body) (read : action start body = .ok (segment, rest)) :
    offset + byteCount (splitOpening cs).1 + 2 + (byteCount body - byteCount rest) + byteCount rest =
      offset + byteCount cs := by
  have left := byteCount_le_of_suffix (action_suffix read)
  have whole := congrArg byteCount (splitOpening_eq opened)
  have brace : ('\x7b' : Char).utf8Size = 1 := rfl
  simp only [byteCount_append, byteCount, brace] at whole
  omega

theorem action_not_mem_textSegment (tokens : List Placed) (place : Nat) (trim : Trim) (chars : List Char) :
    .action tokens place trim ∉ textSegment chars := by
  unfold textSegment
  split <;> simp

end Responder.Template
