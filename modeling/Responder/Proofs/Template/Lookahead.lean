/-
# Responder.Proofs.Template.Lookahead -- what is read stays read when more follows

A token is decided by its own text and the two characters behind it.  An action
or comment that has been read ends in two braces, so it is read in the same way
whatever follows (`action_append`), and so are all segments of a source that can
be scanned, but for the text at its end: that one goes on (`scanFrom_append`).
-/
import Responder.Proofs.Template.Remainder

namespace Responder.Template

set_option autoImplicit false

variable {offset : Nat} {cs rest : List Char} (more : List Char)

/-! ## Tokens -/

theorem takeName_append_of_some (some : (takeName cs).2 ≠ []) :
    takeName (cs ++ more) = ((takeName cs).1, (takeName cs).2 ++ more) := by
  have notAll : (cs.takeWhile continuesName).length ≠ cs.length := by
    intro all
    have parts := congrArg List.length (takeName_append cs)
    rw [List.length_append, takeName, all] at parts
    exact some (List.length_eq_zero_iff.1 (by simpa [takeName] using parts))
  have isEmpty : (cs.dropWhile continuesName).isEmpty = false := List.isEmpty_eq_false_iff.2 some
  rw [takeName, List.takeWhile_append, if_neg notAll, List.dropWhile_append, isEmpty]
  rfl

theorem takeChain_append (two : 2 ≤ (takeChain cs).2.length) :
    takeChain (cs ++ more) = ((takeChain cs).1, (takeChain cs).2 ++ more) := by
  fun_induction takeChain cs with
  | case1 c rest starts names after eq ih =>
      rw [eq] at ih
      have later := ih two
      have nonempty : (takeName rest).2 ≠ [] := by
        intro none
        have shorter := takeChain_length (takeName rest).2
        rw [eq, none] at shorter
        simp only [List.length_nil] at shorter two
        omega
      rw [List.cons_append, List.cons_append, takeChain, if_pos starts,
        takeName_append_of_some more nonempty, later]
  | case2 c rest noName => simp [takeChain, noName]
  | case3 cs noDot =>
      rw [takeChain]
      intro c tail eq
      rcases cs with _ | ⟨a, _ | ⟨b, cs⟩⟩
      · cases two
      · exact absurd two (by simp)
      · obtain ⟨rfl, rest⟩ := List.cons.inj eq
        exact noDot b cs rfl

/-- Where no chain starts, nothing is taken. -/
theorem takeChain_of_fst_eq_nil (none : (takeChain cs).1 = []) : (takeChain cs).2 = cs := by
  fun_induction takeChain cs with
  | case1 => cases none
  | case2 | case3 => rfl

theorem takeNumberChars_append (before : Char) (some : (takeNumberChars before cs).2 ≠ []) :
    takeNumberChars before (cs ++ more) =
      ((takeNumberChars before cs).1, (takeNumberChars before cs).2 ++ more) := by
  induction cs generalizing before with
  | nil => exact absurd rfl some
  | cons c cs ih =>
      simp only [takeNumberChars, List.cons_append] at some ⊢
      split
      · rename_i belongs
        rw [if_pos belongs] at some
        rw [ih c some]
      · rfl

theorem takeSign_append (some : cs ≠ []) :
    takeSign (cs ++ more) = ((takeSign cs).1, (takeSign cs).2 ++ more) := by
  cases cs with
  | nil => exact absurd rfl some
  | cons c cs =>
      by_cases minus : c = '-'
      · rw [minus]
        rfl
      · by_cases plus : c = '+'
        · rw [plus]
          rfl
        · simp [takeSign, minus, plus]

theorem startsNumber_append (two : 2 ≤ cs.length) : startsNumber (cs ++ more) = startsNumber cs := by
  match cs, two with
  | c :: d :: cs, _ => rfl

theorem takeNumber_append {t : Token} (taken : takeNumber offset cs = .ok (t, rest)) (some : cs ≠ [])
    (left : rest ≠ []) : takeNumber offset (cs ++ more) = .ok (t, rest ++ more) := by
  unfold takeNumber at taken ⊢
  rw [takeSign_append more some]
  dsimp only at taken ⊢
  split at taken
  · rename_i n number
    cases taken
    rw [takeNumberChars_append more ' ' left]
    dsimp only
    rw [number]
  · cases taken

theorem takeString_append {start : Nat} {s : List Char}
    (taken : takeString start offset cs = .ok (s, rest)) :
    takeString start offset (cs ++ more) = .ok (s, rest ++ more) := by
  fun_induction takeString start offset cs generalizing s with
  | case1 | case3 | case5 | case6 => cases taken
  | case2 offset cs =>
      cases taken
      rfl
  | case4 offset c cs e known ih =>
      obtain ⟨⟨s', r⟩, found, eq⟩ := map_eq_ok_iff.1 taken
      cases eq
      rw [List.cons_append, List.cons_append, takeString, known, ih found]
      rfl
  | case7 offset c cs noQuote noBreak noMore noSlash ih =>
      obtain ⟨⟨s', r⟩, found, eq⟩ := map_eq_ok_iff.1 taken
      cases eq
      have noEscape (d : Char) (ds : List Char) : c = '\\' → cs ++ more = d :: ds → False :=
        fun slash => absurd slash noSlash
      rw [List.cons_append, takeString.eq_5 _ _ _ _ noQuote noBreak noEscape, if_neg noSlash, ih found]
      rfl

theorem takeRaw_append {s : List Char} (taken : takeRaw cs = some (s, rest)) :
    takeRaw (cs ++ more) = some (s, rest ++ more) := by
  induction cs generalizing s with
  | nil => cases taken
  | cons c cs ih =>
      simp only [takeRaw, List.cons_append] at taken ⊢
      split
      · rename_i quote
        rw [if_pos quote] at taken
        cases taken
        rfl
      · rename_i other
        rw [if_neg other] at taken
        obtain ⟨⟨s', r⟩, found, eq⟩ := Option.map_eq_some_iff.1 taken
        cases eq
        rw [ih found]
        rfl

/-- A dot, or the chain that it starts. -/
theorem takeToken_append_of_dot {t : Token} (taken : takeToken offset ('.' :: cs) = .ok (t, rest))
    (two : 2 ≤ rest.length) : takeToken offset ('.' :: cs ++ more) = .ok (t, rest ++ more) := by
  rcases chain : takeChain ('.' :: cs) with ⟨names, after⟩
  simp only [takeToken, if_true, chain] at taken
  have enough : 2 ≤ (takeChain ('.' :: cs)).2.length := by
    cases names with
    | nil =>
        cases taken
        rw [takeChain_of_fst_eq_nil (by rw [chain])]
        exact Nat.le_succ_of_le two
    | cons name names =>
        cases taken
        rw [chain]
        exact two
  have longer := takeChain_append more enough
  rw [chain, List.cons_append] at longer
  simp only [takeToken, if_true, List.cons_append, longer]
  cases names <;> cases taken <;> rfl

/-- A token is read in the same way whatever follows the two characters behind it. -/
theorem takeToken_append {t : Token} (taken : takeToken offset cs = .ok (t, rest))
    (two : 2 ≤ rest.length) : takeToken offset (cs ++ more) = .ok (t, rest ++ more) := by
  cases cs with
  | nil => cases taken
  | cons c cs =>
      have shorter := takeToken_length taken
      have nonempty : rest ≠ [] := by
        rintro rfl
        cases two
      have number : startsNumber (c :: (cs ++ more)) = startsNumber (c :: cs) :=
        startsNumber_append more (Nat.le_of_lt (Nat.lt_of_le_of_lt two shorter))
      by_cases dot : c = '.'
      · subst dot
        exact takeToken_append_of_dot more taken two
      · simp only [takeToken, List.cons_append, if_neg dot, number] at taken ⊢
        split_ifs at taken ⊢ with quote backQuote pipe openParen closeParen starts name
        · obtain ⟨⟨s, r⟩, found, eq⟩ := map_eq_ok_iff.1 taken
          cases eq
          rw [takeString_append more found]
          rfl
        · rcases found : takeRaw cs with _ | ⟨s, r⟩
          · rw [found] at taken
            cases taken
          · rw [found] at taken
            cases taken
            rw [takeRaw_append more found]
        · cases taken
          rfl
        · cases taken
          rfl
        · cases taken
          rfl
        · exact takeNumber_append more taken (List.cons_ne_nil c cs) nonempty
        · cases taken
          rw [takeName_append_of_some more nonempty]

/-! ## Actions and comments -/

theorem skipSpace_append_of_some (some : skipSpace cs ≠ []) :
    skipSpace (cs ++ more) = skipSpace cs ++ more := by
  have isEmpty : (cs.dropWhile isSpace).isEmpty = false := List.isEmpty_eq_false_iff.2 some
  rw [skipSpace, List.dropWhile_append, isEmpty]
  rfl

theorem closing?_append {spaced trim : Bool} (closed : closing? spaced cs = some (trim, rest)) :
    closing? spaced (cs ++ more) = some (trim, rest ++ more) := by
  unfold closing? at closed
  split at closed
  · cases closed
    rfl
  · split at closed
    · rename_i blank
      cases closed
      simp [closing?, blank]
    · cases closed
  · cases closed

theorem byteCount_append_sub (cs ds : List Char) :
    byteCount (cs ++ more) - byteCount (ds ++ more) = byteCount cs - byteCount ds := by
  rw [byteCount_append, byteCount_append, Nat.add_sub_add_right]

theorem length_append_lt_iff (cs ds : List Char) :
    (cs ++ more).length < (ds ++ more).length ↔ cs.length < ds.length := by
  rw [List.length_append, List.length_append, Nat.add_lt_add_iff_right]

theorem actionTokens_append {start : Nat} {spaced trim : Bool} {tokens : List Placed}
    (read : actionTokens start offset spaced cs = .ok (tokens, trim, rest)) :
    actionTokens start offset spaced (cs ++ more) = .ok (tokens, trim, rest ++ more) := by
  fun_induction actionTokens start offset spaced cs generalizing tokens with
  | case1 offset spaced cs trim rest closed =>
      cases read
      exact actionTokens_closed (closing?_append more closed)
  | case2 | case3 => cases read
  | case4 offset spaced cs unclosed some t behind taken ih =>
      obtain ⟨⟨later, trim', rest'⟩, readLater, eq⟩ := map_eq_ok_iff.1 read
      cases eq
      -- The braces that end the action are still to come.
      have two := actionTokens_length readLater
      have left : skipSpace behind ≠ [] := by
        intro none
        simp [none] at two
      have enough : 2 ≤ behind.length := by
        have := skipSpace_length behind
        dsimp only at two
        omega
      rw [actionTokens_cons (takeToken_append more taken enough), skipSpace_append_of_some more left,
        byteCount_append_sub, decide_eq_decide.2 (length_append_lt_iff more _ _), ih readLater]
      rfl

theorem afterComment_append (found : afterComment cs = some rest) :
    afterComment (cs ++ more) = some (rest ++ more) := by
  fun_induction afterComment cs with
  | case1 cs =>
      cases found
      rfl
  | case2 c cs noEnd ih =>
      rw [List.cons_append, afterComment.eq_2, ih found]
      rintro tail rfl eq
      match cs, eq with
      | d :: cs, eq =>
          obtain ⟨rfl, -⟩ := List.cons.inj eq
          exact noEnd cs rfl rfl
      | [], _ => cases found
  | case3 => cases found

theorem comment_append {start : Nat} {trimLeft : Bool} {segment : Segment}
    (read : comment start trimLeft cs = .ok (segment, rest)) :
    comment start trimLeft (cs ++ more) = .ok (segment, rest ++ more) := by
  unfold comment at read ⊢
  split at read
  · cases read
  · rename_i behind found
    dsimp only at read
    split at read
    · rename_i trimRight after closed
      cases read
      have left : skipSpace behind ≠ [] := by
        intro none
        rw [none] at closed
        cases closed
      rw [afterComment_append more found]
      simp only [skipSpace_append_of_some more left, decide_eq_decide.2 (length_append_lt_iff more _ _),
        closing?_append more closed]
    · cases read

theorem takeTrim_append (two : 2 ≤ cs.length) :
    takeTrim (cs ++ more) = ((takeTrim cs).1, (takeTrim cs).2 ++ more) := by
  match cs, two with
  | c :: d :: cs, _ =>
      by_cases minus : c = '-'
      · rw [minus]
        simp only [List.cons_append, takeTrim]
        split <;> rfl
      · simp [takeTrim, minus]

/-- **An action or comment is read in the same way whatever follows it.** -/
theorem action_append {start : Nat} {segment : Segment} (read : action start cs = .ok (segment, rest)) :
    action start (cs ++ more) = .ok (segment, rest ++ more) := by
  have enough := action_length read
  have two : 2 ≤ cs.length := by
    dsimp only at enough
    omega
  unfold action at read ⊢
  rw [takeTrim_append more two]
  dsimp only at read ⊢
  split at read
  · rename_i inside opened
    have nonempty : skipSpace (takeTrim cs).2 ≠ [] := by
      rw [opened]
      simp
    rw [skipSpace_append_of_some more nonempty, opened]
    exact comment_append more read
  · rename_i noComment
    obtain ⟨⟨tokens, trimRight, after⟩, tokensRead, eq⟩ := map_eq_ok_iff.1 read
    cases eq
    have braces := actionTokens_length tokensRead
    have nonempty : skipSpace (takeTrim cs).2 ≠ [] := by
      intro none
      simp [none] at braces
    rw [skipSpace_append_of_some more nonempty]
    split
    · rename_i inside opened
      -- Two characters are left, so it would have been a comment before.
      match left : skipSpace (takeTrim cs).2, opened with
      | c :: d :: tail, opened =>
          obtain ⟨rfl, more'⟩ := List.cons.inj opened
          obtain ⟨rfl, -⟩ := List.cons.inj more'
          exact absurd left (noComment tail)
      | [c], _ => simp [left] at braces
      | [], _ => exact absurd left nonempty
    · rw [byteCount_append_sub, decide_eq_decide.2 (length_append_lt_iff more _ _),
        actionTokens_append more tokensRead]
      rfl

/-! ## Segments -/

theorem splitOpening_append_of_some {body : List Char} (opened : (splitOpening cs).2 = some body) :
    splitOpening (cs ++ more) = ((splitOpening cs).1, some (body ++ more)) := by
  fun_induction splitOpening cs with
  | case1 rest =>
      cases opened
      rfl
  | case2 c cs noOpening ih =>
      have later := ih opened
      rw [List.cons_append, splitOpening.eq_2, later]
      rintro tail rfl eq
      match cs, eq with
      | d :: cs, eq =>
          obtain ⟨rfl, -⟩ := List.cons.inj eq
          exact noOpening cs rfl rfl
      | [], _ => cases opened
  | case3 => cases opened

theorem splitOpening_cons_of_ne {c : Char} (noBrace : c ≠ '\x7b') (cs : List Char) :
    splitOpening (c :: cs) = (c :: (splitOpening cs).1, (splitOpening cs).2) := by
  rw [splitOpening.eq_2]
  rintro tail rfl
  exact absurd rfl noBrace

theorem splitOpening_fst_of_none (unopened : (splitOpening cs).2 = none) : (splitOpening cs).1 = cs := by
  fun_induction splitOpening cs with
  | case1 => cases unopened
  | case2 c cs noOpening ih => rw [ih unopened]
  | case3 => rfl

theorem splitOpening_append_of_none {c : Char} (unopened : (splitOpening cs).2 = none)
    (noBrace : c ≠ '\x7b') (tail : List Char) :
    splitOpening (cs ++ c :: tail) =
      (cs ++ (splitOpening (c :: tail)).1, (splitOpening (c :: tail)).2) := by
  fun_induction splitOpening cs with
  | case1 => cases unopened
  | case2 d cs noOpening ih =>
      rw [List.cons_append, splitOpening.eq_2, ih unopened]
      · rfl
      · rintro rest rfl eq
        match cs, eq with
        | e :: cs, eq =>
            obtain ⟨rfl, -⟩ := List.cons.inj eq
            exact noOpening cs rfl rfl
        | [], eq => exact noBrace (List.cons.inj eq).1
  | case3 => rfl

/-- The segments `front` and the text `last`, and behind them segments of which the first is a
text: it goes on with `last`. -/
def lengthen (front : List Segment) (last : List Char) : List Segment → List Segment
  | .text chars :: rest => front ++ .text (last ++ chars) :: rest
  | segments => front ++ textSegment last ++ segments

theorem lengthen_append (first front : List Segment) (last : List Char) (segments : List Segment) :
    lengthen (first ++ front) last segments = first ++ lengthen front last segments := by
  unfold lengthen
  split <;> simp only [List.append_assoc]

theorem lengthen_textSegment (last : List Char) (c : Char) (chars : List Char) (rest : List Segment) :
    lengthen [] last (textSegment (c :: chars) ++ rest) = textSegment (last ++ c :: chars) ++ rest := by
  have nonempty : last ++ c :: chars ≠ [] := by simp
  rw [textSegment, textSegment, if_neg (List.cons_ne_nil c chars), if_neg nonempty]
  rfl

/-- **A source that can be scanned has the same segments in front of any other**, but for the text
at its end, which goes on.  The other must start with a text, and not with a brace, which could
open an action together with a brace at the end of the first. -/
theorem scanFrom_append {segments : List Segment} (scanned : scanFrom offset cs = .ok segments) :
    ∃ front last, segments = front ++ textSegment last ∧
      ∀ (c : Char) (tail : List Char), c ≠ '\x7b' → scanFrom offset (cs ++ c :: tail) =
        (scanFrom (offset + byteCount cs) (c :: tail)).map (lengthen front last) := by
  revert segments
  fun_induction scanFrom offset cs with
  | case1 offset cs unopened =>
      -- nothing opens, so all of it is the text that goes on
      rintro segments scanned
      cases scanned
      rw [splitOpening_fst_of_none unopened]
      refine ⟨[], cs, rfl, fun c tail noBrace => ?_⟩
      have whole := splitOpening_append_of_none unopened noBrace tail
      have first := splitOpening_cons_of_ne noBrace tail
      rw [first] at whole
      rcases openedLater : (splitOpening tail).2 with _ | body <;> rw [openedLater] at first whole
      · rw [scanFrom_text first, scanFrom_text whole]
        have joined := lengthen_textSegment cs c (splitOpening tail).1 []
        rw [List.append_nil, List.append_nil] at joined
        exact congrArg Except.ok joined.symm
      · have place : offset + byteCount (cs ++ c :: (splitOpening tail).1) =
            offset + byteCount cs + byteCount (c :: (splitOpening tail).1) := by
          rw [byteCount_append, Nat.add_assoc]
        rcases read : action (offset + byteCount cs + byteCount (c :: (splitOpening tail).1)) body with
          flaw | ⟨segment, rest⟩
        · rw [scanFrom_flaw first read, scanFrom_flaw whole (place ▸ read)]
          rfl
        · rw [scanFrom_action first read, scanFrom_action whole (place ▸ read), place]
          cases scanFrom _ rest with
          | error flaw => rfl
          | ok later => exact congrArg Except.ok (lengthen_textSegment cs c _ (segment :: later)).symm
  | case2 => simp
  | case3 offset cs body opened start segment rest read =>
      -- what opens here is read as before, and what stands behind it goes on by induction
      rename_i ih
      intro segments scanned
      obtain ⟨later, scannedLater, eq⟩ := map_eq_ok_iff.1 scanned
      cases eq
      obtain ⟨front, last, split, goesOn⟩ := ih scannedLater
      refine ⟨textSegment (splitOpening cs).1 ++ segment :: front, last, ?_, fun c tail noBrace => ?_⟩
      · rw [split, List.append_assoc, List.cons_append]
      · have whole := splitOpening_append_of_some (c :: tail) opened
        have longer := action_append (c :: tail) read
        rw [scanFrom_action whole longer, byteCount_append_sub, goesOn c tail noBrace,
          place_behind_action opened read]
        have first (segments : List Segment) :
            textSegment (splitOpening cs).1 ++ segment :: lengthen front last segments =
              lengthen (textSegment (splitOpening cs).1 ++ segment :: front) last segments := by
          have apart := lengthen_append (textSegment (splitOpening cs).1 ++ [segment]) front last segments
          rw [List.append_assoc, List.append_assoc] at apart
          exact apart.symm
        cases scanFrom (offset + byteCount cs) (c :: tail) with
        | error flaw => rfl
        | ok found => exact congrArg Except.ok (first found)

end Responder.Template
