/-
# Responder.Proofs.Template.Cut -- what is read is read without what follows

The converse of Lookahead: where a token leaves two characters and more of a source,
what stands behind them has no part in it, so the token is read as well where the
source ends with them (`takeToken_cut`).  An action or comment looks at nothing
behind the braces that end it, so it is read from its own text alone (`action_cut`).
-/
import Responder.Proofs.Template.Lookahead

namespace Responder.Template

set_option autoImplicit false

variable {offset : Nat} {cs left more : List Char}

/-! ## Tokens -/

theorem dropWhile_cut {p : Char → Bool} (dropped : (cs ++ more).dropWhile p = left ++ more)
    (some : left ≠ []) : cs.dropWhile p = left := by
  by_cases none : cs.dropWhile p = []
  · -- then what is left of the longer text is left of `more`
    have short := (List.dropWhile_suffix p (l := more)).length_le
    have all : (cs ++ more).dropWhile p = more.dropWhile p := by
      rw [List.dropWhile_append, if_pos (List.isEmpty_iff.2 none)]
    rw [← all, dropped, List.length_append] at short
    exact absurd (List.length_eq_zero_iff.1 (by omega)) some
  · have isEmpty : (cs.dropWhile p).isEmpty = false := List.isEmpty_eq_false_iff.2 none
    rw [List.dropWhile_append, isEmpty] at dropped
    exact List.append_cancel_right dropped

theorem takeName_cut {name : List Char} (taken : takeName (cs ++ more) = (name, left ++ more))
    (some : left ≠ []) : takeName cs = (name, left) := by
  have behind : (takeName cs).2 = left := dropWhile_cut (Prod.mk.inj taken).2 some
  have longer := takeName_append_of_some more (behind ▸ some)
  exact Prod.ext (Prod.mk.inj (longer.symm.trans taken)).1 behind

theorem takeChain_cut {names : List String} (taken : takeChain (cs ++ more) = (names, left ++ more))
    (two : 2 ≤ left.length) : takeChain cs = (names, left) := by
  fun_induction takeChain cs generalizing names with
  | case1 c rest starts later after eq ih =>
      rcases name : takeName (rest ++ more) with ⟨chars, behind⟩
      rcases chain : takeChain behind with ⟨others, last⟩
      rw [List.cons_append, List.cons_append, takeChain, if_pos starts, name, chain] at taken
      cases taken
      -- the name ends in front of what is left, so it is the same in the shorter text
      obtain ⟨front, rfl⟩ : ∃ front, front ++ (left ++ more) = behind := by
        have suffix := takeChain_suffix behind
        rwa [chain] at suffix
      rw [← List.append_assoc] at name chain
      have nonempty : left ≠ [] := List.ne_nil_of_length_pos (Nat.lt_of_lt_of_le Nat.zero_lt_two two)
      have shorter := takeName_cut name (List.append_ne_nil_of_right_ne_nil front nonempty)
      rw [shorter] at eq ih ⊢
      rw [ih chain] at eq
      cases eq
      rfl
  | case2 c rest noName =>
      rw [List.cons_append, List.cons_append, takeChain, if_neg noName] at taken
      obtain ⟨none, whole⟩ := Prod.mk.inj taken
      exact Prod.ext none (List.append_cancel_right whole)
  | case3 cs noDot =>
      have short := takeChain_length (cs ++ more)
      rw [taken, List.length_append, List.length_append] at short
      rcases cs with _ | ⟨a, _ | ⟨b, cs⟩⟩
      · rw [List.length_nil] at short
        omega
      · rw [List.length_singleton] at short
        omega
      · have noChain : takeChain (a :: b :: cs ++ more) = ([], a :: b :: cs ++ more) := by
          rw [List.cons_append, List.cons_append, takeChain]
          intro c rest eq
          cases eq
          exact noDot _ _ rfl
        obtain ⟨none, whole⟩ := Prod.mk.inj (noChain.symm.trans taken)
        exact Prod.ext none (List.append_cancel_right whole)

theorem takeNumberChars_cut {before : Char} {chars : List Char}
    (taken : takeNumberChars before (cs ++ more) = (chars, left ++ more)) (some : left ≠ []) :
    takeNumberChars before cs = (chars, left) := by
  induction cs generalizing before chars with
  | nil =>
      have short := takeNumberChars_length before more
      rw [List.nil_append] at taken
      rw [taken, List.length_append] at short
      exact absurd (List.length_eq_zero_iff.1 (by omega)) some
  | cons c cs ih =>
      rw [List.cons_append] at taken
      simp only [takeNumberChars] at taken ⊢
      split_ifs at taken ⊢ with belongs
      · rcases others : takeNumberChars c (cs ++ more) with ⟨tail, last⟩
        rw [others] at taken
        cases taken
        rw [ih others]
      · obtain ⟨rfl, whole⟩ := Prod.mk.inj taken
        exact Prod.ext rfl (List.append_cancel_right whole)

theorem takeNumber_cut {t : Token} (taken : takeNumber offset (cs ++ more) = .ok (t, left ++ more))
    (some : cs ≠ []) (behind : left ≠ []) : takeNumber offset cs = .ok (t, left) := by
  unfold takeNumber at taken ⊢
  rw [takeSign_append more some] at taken
  dsimp only at taken ⊢
  rcases body : takeNumberChars ' ' ((takeSign cs).2 ++ more) with ⟨chars, last⟩
  rw [body] at taken
  dsimp only at taken
  split at taken
  · rename_i n number
    cases taken
    rw [takeNumberChars_cut body behind]
    dsimp only
    rw [number]
  · cases taken

theorem takeString_cut {start : Nat} {s : List Char}
    (taken : takeString start offset (cs ++ more) = .ok (s, left ++ more)) :
    takeString start offset cs = .ok (s, left) := by
  have short := takeString_length taken
  fun_induction takeString start offset cs generalizing s with
  | case1 =>
      rw [List.length_append, List.nil_append] at short
      omega
  | case2 offset cs =>
      obtain ⟨rfl, whole⟩ := Prod.mk.inj (Except.ok.inj taken)
      rw [List.append_cancel_right whole]
  | case3 => cases taken
  | case4 offset c cs e known ih =>
      rw [List.cons_append, List.cons_append, takeString, known] at taken
      obtain ⟨⟨s', r⟩, found, eq⟩ := map_eq_ok_iff.1 taken
      cases eq
      rw [ih found (takeString_length found)]
      rfl
  | case5 offset c cs unknown =>
      rw [List.cons_append, List.cons_append, takeString, unknown] at taken
      cases taken
  | case6 offset cs noQuote noBreak noMore =>
      -- an escape that the cut goes through takes a character of what follows
      rcases cs with _ | ⟨c, cs⟩
      · rcases more with _ | ⟨c, more⟩
        · cases taken
        · rw [List.singleton_append, takeString] at taken
          rcases known : escape? c with _ | e <;> rw [known] at taken
          · cases taken
          · obtain ⟨⟨s', r⟩, found, eq⟩ := map_eq_ok_iff.1 taken
            cases eq
            have inside := takeString_length found
            simp only [List.length_append, List.length_cons] at inside
            omega
      · exact absurd rfl (noMore c cs rfl)
  | case7 offset c cs noQuote noBreak noMore noSlash ih =>
      have noEscape (d : Char) (ds : List Char) : c = '\\' → cs ++ more = d :: ds → False :=
        fun slash => absurd slash noSlash
      rw [List.cons_append, takeString.eq_5 _ _ _ _ noQuote noBreak noEscape, if_neg noSlash] at taken
      obtain ⟨⟨s', r⟩, found, eq⟩ := map_eq_ok_iff.1 taken
      cases eq
      rw [ih found (takeString_length found)]
      rfl

theorem takeRaw_cut {s : List Char} (taken : takeRaw (cs ++ more) = some (s, left ++ more)) :
    takeRaw cs = some (s, left) := by
  induction cs generalizing s with
  | nil =>
      have short := takeRaw_length taken
      rw [List.length_append, List.nil_append] at short
      omega
  | cons c cs ih =>
      simp only [takeRaw, List.cons_append] at taken ⊢
      split_ifs at taken ⊢ with quote
      · obtain ⟨rfl, whole⟩ := Prod.mk.inj (Option.some.inj taken)
        rw [List.append_cancel_right whole]
      · obtain ⟨⟨s', r⟩, found, eq⟩ := Option.map_eq_some_iff.1 taken
        cases eq
        rw [ih found]
        rfl

/-- A dot, or the chain that it starts. -/
theorem takeToken_cut_of_dot {t : Token} (taken : takeToken offset ('.' :: cs ++ more) = .ok (t, left ++ more))
    (two : 2 ≤ left.length) : takeToken offset ('.' :: cs) = .ok (t, left) := by
  rcases chain : takeChain ('.' :: cs ++ more) with ⟨names, behind⟩
  simp only [takeToken, if_true, List.cons_append] at taken ⊢
  rw [List.cons_append] at chain
  rw [chain] at taken
  cases names with
  | nil =>
      obtain ⟨rfl, whole⟩ := Prod.mk.inj (Except.ok.inj taken)
      obtain rfl := List.append_cancel_right whole
      have unnamed : (takeChain ('.' :: (cs ++ more))).1 = [] := congrArg Prod.fst chain
      have unchained : takeChain ('.' :: cs) = ([], '.' :: cs) :=
        takeChain_cut (Prod.ext unnamed (takeChain_of_fst_eq_nil unnamed)) (Nat.le_succ_of_le two)
      rw [unchained]
  | cons name names =>
      cases taken
      rw [takeChain_cut chain two]

/-- **A token is read from its own text and the two characters behind it.** -/
theorem takeToken_cut {t : Token} (taken : takeToken offset (cs ++ more) = .ok (t, left ++ more))
    (two : 2 ≤ left.length) : takeToken offset cs = .ok (t, left) := by
  have shorter := takeToken_length taken
  cases cs with
  | nil =>
      rw [List.length_append, List.nil_append] at shorter
      omega
  | cons c cs =>
      have nonempty : left ≠ [] := List.ne_nil_of_length_pos (Nat.lt_of_lt_of_le Nat.zero_lt_two two)
      have number : startsNumber (c :: (cs ++ more)) = startsNumber (c :: cs) := by
        have enough : 2 ≤ (c :: cs).length := by
          simp only [List.length_append] at shorter
          omega
        exact startsNumber_append more enough
      by_cases dot : c = '.'
      · subst dot
        exact takeToken_cut_of_dot taken two
      · simp only [takeToken, List.cons_append, if_neg dot, number] at taken ⊢
        split_ifs at taken ⊢ with quote backQuote pipe openParen closeParen starts name
        · obtain ⟨⟨s, r⟩, found, eq⟩ := map_eq_ok_iff.1 taken
          cases eq
          rw [takeString_cut found]
          rfl
        · rcases found : takeRaw (cs ++ more) with _ | ⟨s, r⟩ <;> rw [found] at taken <;> cases taken
          rw [takeRaw_cut found]
        · obtain ⟨rfl, whole⟩ := Prod.mk.inj (Except.ok.inj taken)
          rw [List.append_cancel_right whole]
        · obtain ⟨rfl, whole⟩ := Prod.mk.inj (Except.ok.inj taken)
          rw [List.append_cancel_right whole]
        · obtain ⟨rfl, whole⟩ := Prod.mk.inj (Except.ok.inj taken)
          rw [List.append_cancel_right whole]
        · exact takeNumber_cut taken (List.cons_ne_nil c cs) nonempty
        · obtain ⟨rfl, whole⟩ := Prod.mk.inj (Except.ok.inj taken)
          rw [takeName_cut (Prod.ext rfl whole) nonempty]

/-! ## Actions and comments -/

theorem skipSpace_cut (skipped : skipSpace (cs ++ more) = left ++ more) (some : left ≠ []) :
    skipSpace cs = left := dropWhile_cut skipped some

theorem closing?_cut {spaced trim : Bool} (closed : closing? spaced (cs ++ more) = some (trim, more)) :
    closing? spaced cs = some (trim, []) := by
  generalize whole : cs ++ more = longer at closed
  unfold closing? at closed
  split at closed
  · cases closed
    obtain rfl : cs = ['\x7d', '\x7d'] := List.append_cancel_right whole
    rfl
  · split at closed
    · rename_i blank
      cases closed
      obtain rfl : cs = ['-', '\x7d', '\x7d'] := List.append_cancel_right whole
      simp [closing?, blank]
    · cases closed
  · cases closed

/-- What the braces that close an action belong to stands in front of the cut. -/
theorem exists_of_closedBefore (closed : ClosedBefore more cs) :
    ∃ front, 2 ≤ front.length ∧ front ≠ [] ∧ cs = front ++ more := by
  obtain ⟨front, rfl⟩ := closed
  refine ⟨front ++ ['\x7d', '\x7d'], ?_, List.append_ne_nil_of_right_ne_nil front (List.cons_ne_nil _ _), ?_⟩
  · rw [List.length_append]
    exact Nat.le_add_left _ _
  · rw [List.append_assoc]
    rfl

/-- The tokens of an action are read from the text up to its closing braces. -/
theorem actionTokens_cut {start : Nat} {spaced trim : Bool} {tokens : List Placed}
    (read : actionTokens start offset spaced (cs ++ more) = .ok (tokens, trim, more)) :
    actionTokens start offset spaced cs = .ok (tokens, trim, []) := by
  generalize whole : cs ++ more = longer at read
  fun_induction actionTokens start offset spaced longer generalizing tokens cs with
  | case1 offset spaced longer trim rest closed =>
      cases read
      subst whole
      exact actionTokens_closed (closing?_cut closed)
  | case2 | case3 => cases read
  | case4 offset spaced longer unclosed some t behind taken ih =>
      obtain ⟨⟨later, trim', rest'⟩, readLater, eq⟩ := map_eq_ok_iff.1 read
      cases eq
      subst whole
      obtain ⟨next, two, left, isNext⟩ := exists_of_closedBefore (closedBefore_of_actionTokens readLater)
      obtain ⟨gap, isGap⟩ := skipSpace_suffix behind
      rw [isNext, ← List.append_assoc] at isGap
      have inner := ih isNext.symm readLater
      rw [isNext, ← isGap, byteCount_append_sub] at inner
      simp only [length_append_lt_iff] at inner
      rw [← isGap] at taken isNext
      have enough : 2 ≤ (gap ++ next).length := by
        rw [List.length_append]
        exact Nat.le_add_left_of_le two
      rw [actionTokens_cons (takeToken_cut taken enough), skipSpace_cut isNext left, inner]
      rfl

theorem afterComment_cut (found : afterComment (cs ++ more) = some (left ++ more)) (some : left ≠ []) :
    afterComment cs = .some left := by
  fun_induction afterComment cs with
  | case1 cs => rw [List.append_cancel_right (Option.some.inj found)]
  | case2 c cs noEnd ih =>
      refine ih ?_
      rw [List.cons_append, afterComment.eq_2] at found
      · exact found
      · rintro tail rfl eq
        rcases cs with _ | ⟨d, cs⟩
        · -- the end of a comment that the cut goes through leaves less than `more`
          rw [List.nil_append] at eq
          rw [eq] at found
          have short := congrArg List.length (Option.some.inj found)
          simp only [List.length_append, List.length_cons] at short
          omega
        · obtain ⟨rfl, -⟩ := List.cons.inj eq
          exact noEnd cs rfl rfl
  | case3 =>
      have short := afterComment_length found
      rw [List.length_append, List.nil_append] at short
      exact absurd (List.length_eq_zero_iff.1 (by omega)) some

theorem comment_cut {start : Nat} {trimLeft : Bool} {segment : Segment}
    (read : comment start trimLeft (cs ++ more) = .ok (segment, more)) :
    comment start trimLeft cs = .ok (segment, []) := by
  unfold comment at read ⊢
  split at read
  · cases read
  · rename_i behind found
    dsimp only at read
    split at read
    · rename_i trimRight after closed
      cases read
      obtain ⟨next, -, left, isNext⟩ := exists_of_closedBefore (closedBefore_of_closing? closed)
      obtain ⟨gap, isGap⟩ := skipSpace_suffix behind
      rw [isNext, ← List.append_assoc] at isGap
      rw [isNext, ← isGap] at closed
      simp only [length_append_lt_iff] at closed
      rw [← isGap] at found isNext
      rw [afterComment_cut found (List.append_ne_nil_of_right_ne_nil gap left)]
      simp only [skipSpace_cut isNext left, closing?_cut closed]
    · cases read

/-- **An action or comment is read from its own text**, whatever follows it. -/
theorem action_cut {start : Nat} {segment : Segment} (read : action start (cs ++ more) = .ok (segment, more)) :
    action start cs = .ok (segment, []) := by
  have enough := action_length read
  have two : 2 ≤ cs.length := by
    rw [List.length_append] at enough
    dsimp only at enough
    omega
  unfold action at read ⊢
  rw [takeTrim_append more two] at read
  dsimp only at read ⊢
  generalize whole : skipSpace ((takeTrim cs).2 ++ more) = longer at read
  split at read
  · rename_i inside
    obtain ⟨body, -, -, rfl⟩ := exists_of_closedBefore (closedBefore_of_comment read)
    have opened : skipSpace (takeTrim cs).2 = '/' :: '*' :: body :=
      skipSpace_cut whole (List.cons_ne_nil _ _)
    rw [opened]
    exact comment_cut read
  · rename_i noComment
    obtain ⟨⟨tokens, trimRight, after⟩, tokensRead, eq⟩ := map_eq_ok_iff.1 read
    cases eq
    obtain ⟨next, -, left, rfl⟩ := exists_of_closedBefore (closedBefore_of_actionTokens tokensRead)
    rw [skipSpace_cut whole left]
    split
    · rename_i inside
      exact absurd rfl (noComment (inside ++ after))
    · simp only [byteCount_append_sub, length_append_lt_iff] at tokensRead
      rw [actionTokens_cut tokensRead]
      rfl

end Responder.Template
