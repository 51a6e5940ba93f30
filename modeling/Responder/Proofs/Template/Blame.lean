/-
# Responder.Proofs.Template.Blame -- what a source that does not compile is blamed for

A source that does not compile has a first action or comment that cannot be read, or
else a first action whose tokens make no pipeline, and that one gives the error
(`compile_blames_first_bad_action`).  The place of a flaw is in what it is blamed on:
the scanner finds it between the braces and the end of the source (`inside_of_action`),
the parser at the braces or at a token (`place_of_ofTokens`), and tokens stand in front
of the braces that close an action.  So the line of an error is one of the lines from
these braces on.
-/
import Responder.Proofs.Template.Order
import Responder.Proofs.Template.Tiling

namespace Responder.Template

set_option autoImplicit false

variable {offset place : Nat} {cs ds : List Char}

/-! ## Places in a text -/

/-- A place is that of a character of a text, which starts at `offset`. -/
def Inside (offset : Nat) (cs : List Char) (place : Nat) : Prop :=
  ∃ before behind, cs = before ++ behind ∧ behind ≠ [] ∧ place = offset + byteCount before

theorem inside_start (offset : Nat) (some : cs ≠ []) : Inside offset cs offset :=
  ⟨[], cs, rfl, some, rfl⟩

theorem Inside.append_left {front : List Char} (inside : Inside (offset + byteCount front) cs place) :
    Inside offset (front ++ cs) place := by
  obtain ⟨before, behind, rfl, some, rfl⟩ := inside
  refine ⟨front ++ before, behind, (List.append_assoc _ _ _).symm, some, ?_⟩
  rw [byteCount_append, Nat.add_assoc]

/-- What is inside an end of a text is inside the text. -/
theorem Inside.of_suffix (suffix : ds <:+ cs)
    (inside : Inside (offset + (byteCount cs - byteCount ds)) ds place) : Inside offset cs place := by
  obtain ⟨front, rfl⟩ := suffix
  rw [byteCount_sub_of_append rfl] at inside
  exact inside.append_left

/-! ## Flaws that the scanner finds -/

/-- What an escape needs behind its backslash is one byte. -/
theorem utf8Size_of_escape? {c e : Char} (known : escape? c = some e) : c.utf8Size = 1 := by
  unfold escape? at known
  split at known
  iterate 6 · rfl
  · cases known

/-- A string that cannot be read is blamed where it was opened or at an escape in it. -/
theorem place_of_takeString {start : Nat} {flaw : Flaw} (failed : takeString start offset cs = .error flaw) :
    flaw.offset = start ∨ Inside offset cs flaw.offset := by
  revert failed
  fun_induction takeString start offset cs with
  | case1 offset =>
      intro failed
      cases failed
      exact .inl rfl
  | case2 => simp
  | case3 offset cs =>
      intro failed
      cases failed
      exact .inl rfl
  | case4 offset c cs e known ih =>
      intro failed
      rcases later : takeString start (offset + 2) cs with flaw' | p <;> rw [later] at failed <;> cases failed
      refine (ih later).imp_right fun inside => ?_
      have two : byteCount ['\\', c] = 2 := by simp only [byteCount, utf8Size_of_escape? known]; rfl
      rw [← two] at inside
      exact inside.append_left
  | case5 offset c cs unknown =>
      intro failed
      cases failed
      exact .inr (inside_start offset (List.cons_ne_nil _ _))
  | case6 offset cs noQuote noBreak noMore =>
      intro failed
      cases failed
      exact .inr (inside_start offset (List.cons_ne_nil _ _))
  | case7 offset c cs noQuote noBreak noMore noSlash ih =>
      intro failed
      rcases later : takeString start (offset + c.utf8Size) cs with flaw' | p <;>
        rw [later] at failed <;> cases failed
      refine (ih later).imp_right fun inside => ?_
      have one : c.utf8Size = byteCount [c] := rfl
      rw [one] at inside
      exact inside.append_left

/-- A token that cannot be read is blamed where it starts or further on. -/
theorem inside_of_takeToken {flaw : Flaw} (some : cs ≠ []) (failed : takeToken offset cs = .error flaw) :
    Inside offset cs flaw.offset := by
  have start := inside_start offset some
  obtain ⟨c, cs, rfl⟩ := List.exists_cons_of_ne_nil some
  simp only [takeToken] at failed
  split_ifs at failed with dot quote backQuote pipe openParen closeParen starts name
  · split at failed <;> cases failed
  · rcases read : takeString offset (offset + 1) cs with flaw' | p <;> rw [read] at failed <;> cases failed
    rcases place_of_takeString read with here | inside
    · rw [here]
      exact start
    · have one : byteCount [c] = 1 := by rw [quote]; rfl
      rw [← one] at inside
      exact inside.append_left
  · split at failed <;> cases failed
    exact start
  · unfold takeNumber at failed
    dsimp only at failed
    split at failed <;> cases failed
    exact start
  · cases failed
    exact start

/-- Tokens of an action that cannot be read are blamed at its braces or further on. -/
theorem place_of_actionTokens {start : Nat} {spaced : Bool} {flaw : Flaw}
    (failed : actionTokens start offset spaced cs = .error flaw) :
    flaw.offset = start ∨ Inside offset cs flaw.offset := by
  revert failed
  fun_induction actionTokens start offset spaced cs with
  | case1 => simp
  | case2 offset spaced unclosed =>
      intro failed
      cases failed
      exact .inl rfl
  | case3 offset spaced cs unclosed some flaw' refused =>
      intro failed
      cases failed
      exact .inr (inside_of_takeToken some refused)
  | case4 offset spaced cs unclosed some t rest taken ih =>
      intro failed
      rcases later : actionTokens start (offset + (byteCount cs - byteCount (skipSpace rest)))
        ((skipSpace rest).length < rest.length) (skipSpace rest) with flaw' | p <;>
          rw [later] at failed <;> cases failed
      have suffix := (skipSpace_suffix rest).trans (takeToken_suffix taken)
      exact (ih later).imp_right fun inside => inside.of_suffix suffix

theorem offset_of_comment {start : Nat} {trimLeft : Bool} {flaw : Flaw}
    (failed : comment start trimLeft cs = .error flaw) : flaw.offset = start := by
  unfold comment at failed
  split at failed
  · cases failed
    rfl
  · dsimp only at failed
    split at failed <;> cases failed
    rfl

/-- **An action or comment that cannot be read is blamed** at its braces or further on in the source. -/
theorem inside_of_action {start : Nat} {flaw : Flaw} (failed : action start cs = .error flaw) :
    Inside start ('\x7b' :: '\x7b' :: cs) flaw.offset := by
  have braces := inside_start start (List.cons_ne_nil '\x7b' ('\x7b' :: cs))
  have suffix := (skipSpace_suffix (takeTrim cs).2).trans (takeTrim_suffix cs)
  unfold action at failed
  dsimp only at failed
  split at failed
  · rw [offset_of_comment failed]
    exact braces
  · generalize read : actionTokens start _ _ _ = result at failed
    cases result with
    | ok p => cases failed
    | error flaw' =>
        cases failed
        rcases place_of_actionTokens read with here | inside
        · rw [here]
          exact braces
        · have behind : Inside (start + byteCount ['\x7b', '\x7b']) cs flaw.offset := inside.of_suffix suffix
          exact behind.append_left

/-! ## Flaws that the parser finds -/

theorem offset_of_ofCommands {start : Nat} {commands : List Command} {flaw : Flaw}
    (failed : Pipeline.ofCommands start commands = .error (.flaw flaw)) : flaw.offset = start := by
  have begun (c : Command) : c.begin ≠ .error (.flaw flaw) := by
    intro failed
    unfold Command.begin at failed
    split at failed <;> cases failed
  cases commands with
  | nil =>
      cases failed
      rfl
  | cons first later =>
      rw [Pipeline.ofCommands, bind_eq_error_iff] at failed
      rcases failed with atFirst | ⟨p, -, atLater⟩
      · exact absurd atFirst (begun first)
      · obtain ⟨c, -, q, extending⟩ := exists_of_foldlM_eq_error atLater
        unfold Pipeline.extend at extending
        split at extending <;> cases extending
        rfl

namespace Reading

variable {P : Nat → Prop} {r r' : Reading} {t : Placed}

/-- All places that a reading remembers, where its open pipelines start, have a property. -/
def Remembers (P : Nat → Prop) (r : Reading) : Prop :=
  ∀ f ∈ r.inner :: r.outer, ∀ place ∈ f.start, P place

theorem remembers_start : Remembers P ⟨Frame.empty, []⟩ := by
  intro f member place first
  rw [List.mem_singleton.1 member] at first
  cases first

/-- The place where the pipeline being read starts, or else one at hand. -/
theorem Remembers.getD (remembers : r.Remembers P) (here : P place) : P (r.inner.start.getD place) := by
  cases first : r.inner.start with
  | none => exact here
  | some start => exact remembers r.inner List.mem_cons_self start first

/-- A frame at the front with a start that is remembered, and frames that were there before. -/
theorem Remembers.replace {f : Frame} {outer : List Frame} (remembers : r.Remembers P)
    (front : ∀ place ∈ f.start, P place) (old : ∀ g ∈ outer, g ∈ r.inner :: r.outer) :
    Remembers P ⟨f, outer⟩ := by
  intro g member place first
  rcases List.mem_cons.1 member with rfl | behind
  · exact front place first
  · exact remembers g (old g behind) place first

theorem start_give (f : Frame) (o : Operand) : (f.give o).start = f.start := by
  unfold Frame.give
  split <;> rfl

/-- One step remembers no other place than that of the token it reads. -/
theorem remembers_of_step (remembers : r.Remembers P) (here : P t.offset) (stepped : r.step t = .ok r') :
    r'.Remembers P := by
  obtain ⟨f, outer⟩ := r
  have begun : ∀ place ∈ (f.begunAt t.offset).start, P place := by
    intro place first
    cases first
    exact remembers.getD here
  have outside : ∀ g ∈ outer, g ∈ f :: outer := fun g => List.mem_cons_of_mem f
  obtain ⟨-, c, -, rfl⟩ | ⟨-, c, g, rest, p, -, rfl, -, rfl⟩ | ⟨-, -, rfl⟩ | ⟨-, -, rfl⟩ | ⟨o, -, -, rfl⟩ :=
    step_cases stepped
  · exact remembers.replace begun outside
  · refine remembers.replace ?_ fun h behind => outside h (List.mem_cons_of_mem g behind)
    rw [start_give]
    exact remembers g (outside g List.mem_cons_self)
  · intro g member place first
    rcases List.mem_cons.1 member with rfl | behind
    · cases first
    · rcases List.mem_cons.1 behind with rfl | old
      · exact begun place first
      · exact remembers g (outside g old) place first
  · exact remembers.replace begun outside
  · refine remembers.replace ?_ outside
    rw [start_give]
    exact begun

/-- A step that fails with a flaw blames its token or a place that is remembered. -/
theorem place_of_step {flaw : Flaw} (remembers : r.Remembers P) (here : P t.offset)
    (failed : r.step t = .error (.flaw flaw)) : P flaw.offset := by
  have start := remembers.getD here
  obtain ⟨f, outer⟩ := r
  obtain ⟨token, place⟩ := t
  cases token with
  | name text =>
      cases current : f.current with
      | none =>
          simp only [step, current] at failed
          split at failed <;> cases failed
      | some c =>
          cases c <;> simp only [step, current] at failed
          · cases failed
            exact here
          · unfold nameError at failed
            split at failed <;> cases failed
  | closeParen =>
      cases current : f.current with
      | none =>
          simp only [step, current] at failed
          cases failed
          exact here
      | some c =>
          cases outer with
          | nil =>
              simp only [step, current] at failed
              cases failed
              exact here
          | cons g rest =>
              simp only [step, current, bind_eq_error_iff] at failed
              rcases failed with failed | ⟨p, -, impossible⟩
              · rw [offset_of_ofCommands failed]
                exact start
              · cases impossible
  | pipe | openParen | dot | chain names | text value | number value | bool value | nil =>
      -- the other tokens are blamed themselves, where they are out of place
      cases current : f.current with
      | none =>
          simp only [step, current] at failed
          cases failed <;> exact here
      | some c =>
          cases c <;> simp only [step, current] at failed <;> cases failed <;> exact here

theorem place_of_finish {flaw : Flaw} (remembers : r.Remembers P) (here : P offset)
    (failed : r.finish offset = .error (.flaw flaw)) : P flaw.offset := by
  have start := remembers.getD here
  unfold finish at failed
  dsimp only at failed
  split at failed
  · cases failed
    exact here
  · cases failed
    exact start
  · rw [offset_of_ofCommands failed]
    exact start

end Reading

/-- **Tokens that make no pipeline are blamed** where their action opens or where one of them stands. -/
theorem place_of_ofTokens {tokens : List Placed} {flaw : Flaw}
    (failed : Pipeline.ofTokens offset tokens = .error (.flaw flaw)) :
    flaw.offset = offset ∨ ∃ t ∈ tokens, flaw.offset = t.offset := by
  let P (place : Nat) : Prop := place = offset ∨ ∃ t ∈ tokens, place = t.offset
  have keeps : ∀ t ∈ tokens, ∀ r r', Reading.Remembers P r → r.step t = .ok r' → r'.Remembers P :=
    fun t member r r' remembers => Reading.remembers_of_step remembers (.inr ⟨t, member, rfl⟩)
  rw [Pipeline.ofTokens, bind_eq_error_iff] at failed
  rcases failed with reading | ⟨r, read, finishing⟩
  · obtain ⟨t, member, r, remembers, stepping⟩ :=
      exists_of_foldlM_eq_error_of_invariant keeps Reading.remembers_start reading
    exact Reading.place_of_step remembers (.inr ⟨t, member, rfl⟩) stepping
  · have remembers := invariant_of_foldlM_eq_ok keeps Reading.remembers_start read
    exact Reading.place_of_finish remembers (.inl rfl) finishing

/-! ## Lines -/

/-- A line is that of a place in `span`, which stands behind `before`: not in front of where it starts,
and in front of where it ends. -/
def LineIn (before span : List Char) (line : Nat) : Prop :=
  ∃ within behind, span = within ++ behind ∧ behind ≠ [] ∧ line = 1 + (before ++ within).count '\n'

theorem lineIn_of_inside {before span : List Char} (inside : Inside (byteCount before) span place)
    (after : List Char) : LineIn before span (lineAt (before ++ span ++ after) place) := by
  obtain ⟨within, behind, rfl, some, rfl⟩ := inside
  refine ⟨within, behind, rfl, some, ?_⟩
  have apart : before ++ (within ++ behind) ++ after = (before ++ within) ++ (behind ++ after) := by simp
  rw [apart, ← byteCount_append, lineAt_byteCount]

/-- The line of a place is no higher than that of the span, nor below the last of the source. -/
theorem LineIn.bounds {before span : List Char} {line : Nat} (lies : LineIn before span line)
    (after : List Char) :
    1 + before.count '\n' ≤ line ∧ line ≤ 1 + (before ++ span ++ after).count '\n' := by
  obtain ⟨within, behind, rfl, -, rfl⟩ := lies
  simp only [List.count_append]
  omega

/-! ## The action that is blamed -/

/-- What opens behind `before` cannot be read, because of a flaw. -/
structure Unreadable (source before body : List Char) (flaw : Flaw) : Prop where
  opens : Opens source before body
  failed : action (byteCount before) body = .error flaw

/-- The action that opens behind `before` is read, with `inner` between its braces, but its tokens make
no pipeline. -/
structure Unparsed (source before inner : List Char) (e : SyntaxError) : Prop where
  reads : ∃ rest tokens trim, Opens source before (inner ++ '\x7d' :: '\x7d' :: rest) ∧
    action (byteCount before) (inner ++ '\x7d' :: '\x7d' :: rest) =
      .ok (.action tokens (byteCount before) trim, rest) ∧
    Pipeline.ofTokens (byteCount before) tokens = .error e

section Source

variable {source before body inner : List Char} {flaw : Flaw} {e : SyntaxError}

theorem Unreadable.lineIn (bad : Unreadable source before body flaw) :
    LineIn before ('\x7b' :: '\x7b' :: body) (lineAt source flaw.offset) := by
  have lies := lineIn_of_inside (inside_of_action bad.failed) []
  rwa [List.append_nil, ← bad.opens.split] at lies

theorem Unparsed.exists_split (bad : Unparsed source before inner e) :
    ∃ after, source = before ++ '\x7b' :: '\x7b' :: inner ++ after := by
  obtain ⟨rest, tokens, trim, opens, -⟩ := bad.reads
  refine ⟨'\x7d' :: '\x7d' :: rest, ?_⟩
  rw [opens.split]
  simp

theorem Unparsed.lineIn (bad : Unparsed source before inner (.flaw flaw)) :
    LineIn before ('\x7b' :: '\x7b' :: inner) (lineAt source flaw.offset) := by
  obtain ⟨after, split⟩ := bad.exists_split
  obtain ⟨rest, tokens, trim, -, read, unparsed⟩ := bad.reads
  rw [split]
  apply lineIn_of_inside
  have cut : inner ++ '\x7d' :: '\x7d' :: rest = (inner ++ ['\x7d', '\x7d']) ++ rest := by simp
  rw [cut] at read
  have stand := standIn_of_action (action_cut read)
  rcases place_of_ofTokens unparsed with here | ⟨t, member, here⟩
  · rw [here]
    exact inside_start _ (List.cons_ne_nil _ _)
  · have behind : Inside (byteCount before + byteCount ['\x7b', '\x7b']) inner t.offset :=
      stand.inside t member
    rw [here]
    exact behind.append_left

/-- The segment of an action with tokens that make no pipeline. -/
theorem exists_unparsed_of_mem {segments : List Segment} (scanned : scan source = .ok segments)
    {s : Segment} (member : s ∈ segments) (failed : s.read = .error e) :
    ∃ before inner, s.place? = some (byteCount before) ∧ Unparsed source before inner e := by
  cases s with
  | text chars => cases failed
  | comment trim => cases failed
  | action tokens place trim =>
      have unparsed : Pipeline.ofTokens place tokens = .error e := by
        rcases bind_eq_error_iff.1 failed with refused | ⟨p, -, impossible⟩
        · exact refused
        · cases impossible
      obtain ⟨before, body, rest, opens, here, read⟩ := exists_opens_of_mem_scanFrom scanned member
      rw [Nat.zero_add] at here
      subst here
      obtain ⟨inner, rfl⟩ := closedBefore_of_action read
      exact ⟨before, inner, rfl, ⟨rest, tokens, trim, opens, read, unparsed⟩⟩

/-- An action with tokens that make no pipeline is one of the segments. -/
theorem Unparsed.exists_mem (bad : Unparsed source before inner e) {segments : List Segment}
    (scanned : scan source = .ok segments) :
    ∃ s ∈ segments, s.place? = some (byteCount before) ∧ s.read = .error e := by
  obtain ⟨rest, tokens, trim, opens, read, unparsed⟩ := bad.reads
  obtain ⟨s, left, again, member⟩ := exists_mem_scanFrom_of_opens scanned opens
  rw [Nat.zero_add, read] at again
  cases again
  refine ⟨_, member, rfl, ?_⟩
  rw [Segment.read, unparsed]
  rfl

/-- The first segment whose tokens make no pipeline is in front of all others of this kind. -/
theorem exists_first_unparsed {segments : List Segment} (scanned : scan source = .ok segments)
    (failed : segments.mapM Segment.read = .error e) :
    ∃ before inner, Unparsed source before inner e ∧
      ∀ before' inner' e', Unparsed source before' inner' e' → byteCount before ≤ byteCount before' := by
  obtain ⟨front, s, back, rfl, good, refused⟩ := mapM_eq_error_iff.1 failed
  obtain ⟨before, inner, here, bad⟩ := exists_unparsed_of_mem scanned (by simp) refused
  refine ⟨before, inner, bad, fun before' inner' e' bad' => ?_⟩
  obtain ⟨s', member, there, refused'⟩ := bad'.exists_mem scanned
  have grow := places_of_scanFrom scanned
  rw [List.filterMap_append, List.filterMap_cons, here, List.pairwise_append, List.pairwise_cons] at grow
  rcases List.mem_append.1 member with inFront | notFront
  · obtain ⟨piece, read⟩ := good s' inFront
    rw [read] at refused'
    cases refused'
  · rcases List.mem_cons.1 notFront with rfl | inBack
    · rw [here] at there
      exact Nat.le_of_eq (Option.some.inj there)
    · exact Nat.le_of_lt (grow.2.1.1 _ (List.mem_filterMap.2 ⟨s', inBack, there⟩))

end Source

/-- **A source that does not compile is blamed for its first bad action.**

* If some action or comment cannot be read, the error tells the flaw of the first: all others that open
  stand further to the front and are read, whether or not their tokens make pipelines.
* Otherwise the error is that of the first action whose tokens make no pipeline.
* The line of a flaw is that of a place from the braces on which open the action, in front of the end
  of the source, and where the action is read, in front of the braces that close it.  So it is no
  higher than these braces and no lower than the last line. -/
theorem compile_blames_first_bad_action {name source : String} {e : Error}
    (failed : compile name source = .error e) :
    (∃ before body flaw, Unreadable source.toList before body flaw ∧
      (∀ before' body', Opens source.toList before' body' → before' = before ∧ body' = body ∨
        byteCount before' < byteCount before ∧
          ∃ segment rest, action (byteCount before') body' = .ok (segment, rest)) ∧
      ∃ line, e = .parse name line flaw.fault ∧ LineIn before ('\x7b' :: '\x7b' :: body) line ∧
        1 + before.count '\n' ≤ line ∧ line ≤ 1 + source.toList.count '\n') ∨
    (∀ before body, Opens source.toList before body →
        ∃ segment rest, action (byteCount before) body = .ok (segment, rest)) ∧
      ∃ before inner error, Unparsed source.toList before inner error ∧
        (∀ before' inner' error', Unparsed source.toList before' inner' error' →
          byteCount before ≤ byteCount before') ∧
        e = error.located name source.toList ∧
        ∀ line fault, e = .parse name line fault → LineIn before ('\x7b' :: '\x7b' :: inner) line ∧
          1 + before.count '\n' ≤ line ∧ line ≤ 1 + source.toList.count '\n' := by
  obtain ⟨error, refused, rfl⟩ := compile_eq_error_iff.1 failed
  rcases pieces_eq_error_iff.1 refused with ⟨flaw, unscanned, rfl⟩ | ⟨segments, scanned, unread⟩
  · obtain ⟨before, body, opens, unread⟩ := exists_opens_of_scanFrom_flaw unscanned
    rw [Nat.zero_add] at unread
    have bad : Unreadable source.toList before body flaw := ⟨opens, unread⟩
    have bounds := bad.lineIn.bounds []
    rw [List.append_nil, ← opens.split] at bounds
    exact .inl ⟨before, body, flaw, bad, fun _ _ => opens.eq_or_earlier unread,
      _, rfl, bad.lineIn, bounds⟩
  · refine .inr ⟨fun before body opens => ?_, ?_⟩
    · obtain ⟨segment, rest, read, -⟩ := exists_mem_scanFrom_of_opens scanned opens
      rw [Nat.zero_add] at read
      exact ⟨segment, rest, read⟩
    · obtain ⟨before, inner, bad, first⟩ := exists_first_unparsed scanned unread
      refine ⟨before, inner, error, bad, first, rfl, fun line fault told => ?_⟩
      cases error with
      | unknownFunction function => cases told
      | argCount got => cases told
      | flaw flaw =>
          cases told
          obtain ⟨after, split⟩ := bad.exists_split
          have bounds := bad.lineIn.bounds after
          rw [← split] at bounds
          exact ⟨bad.lineIn, bounds⟩

/-- The first action would make no pipeline, but behind it and a comment an escape is unknown, and that
is told, on the line of the escape.  In a source that can be read, the first of two actions which make
no pipeline is blamed, on the line of its second operand. -/
theorem compile_blames_first_bad_action_behind_comment :
    let source := "a \x7b\x7b .x .y \x7d\x7d\n\x7b\x7b/* \x7b\x7b */\x7d\x7d\x7b\x7b .z\n\"é\\q\"\n\x7d\x7d\x7b\x7b ) \x7d\x7d"
    let readable := "ok\n\x7b\x7b .a \x7d\x7d\x7b\x7b (\n.x .y \x7d\x7d\x7b\x7b upper . \x7d\x7d"
    (compile "t" source = .error (.parse "t" 3 .unknownEscape) ∧
      ∃ before body flaw, Unreadable source.toList before body flaw ∧ flaw.fault = .unknownEscape ∧
        before.count '\n' ≤ 2 ∧ LineIn before ('\x7b' :: '\x7b' :: body) 3) ∧
    compile "t" readable = .error (.parse "t" 3 .argumentToValue) ∧
      ∃ before inner error, Unparsed readable.toList before inner error ∧
        error.located "t" readable.toList = .parse "t" 3 .argumentToValue ∧
        LineIn before ('\x7b' :: '\x7b' :: inner) 3 := by
  intro source readable
  have scanned : (scan source.toList).map (fun _ => ()) = .error ⟨35, .unknownEscape⟩ := by decide +kernel
  have scanned' : (scan readable.toList).map (fun _ => ()) = .ok () := by decide +kernel
  have fails (s : String) (e : Error) (erased : (compile "t" s).map (fun _ => ()) = .error e) :
      compile "t" s = .error e := by
    cases made : compile "t" s <;> rw [made] at erased <;> cases erased
    rfl
  have failed : compile "t" source = .error (.parse "t" 3 .unknownEscape) := fails _ _ (by decide +kernel)
  have failed' : compile "t" readable = .error (.parse "t" 3 .argumentToValue) := fails _ _ (by decide +kernel)
  refine ⟨⟨failed, ?_⟩, failed', ?_⟩
  · obtain ⟨before, body, flaw, bad, -, line, told, lies, high, -⟩ | ⟨allRead, -⟩ :=
      compile_blames_first_bad_action failed
    · obtain ⟨-, rfl, same⟩ := Error.parse.inj told
      exact ⟨before, body, flaw, bad, same.symm, by omega, lies⟩
    · rcases unscanned : scan source.toList with flaw | segments <;> rw [unscanned] at scanned <;> cases scanned
      obtain ⟨before, body, opens, unread⟩ := exists_opens_of_scanFrom_flaw unscanned
      obtain ⟨segment, rest, read⟩ := allRead before body opens
      rw [Nat.zero_add, read] at unread
      cases unread
  · obtain ⟨before, body, flaw, bad, -⟩ | ⟨-, before, inner, error, bad, -, told, lies⟩ :=
      compile_blames_first_bad_action failed'
    · rcases read : scan readable.toList with flaw | segments <;> rw [read] at scanned' <;> cases scanned'
      obtain ⟨segment, rest, there, -⟩ := exists_mem_scanFrom_of_opens read bad.opens
      rw [Nat.zero_add, bad.failed] at there
      cases there
    · exact ⟨before, inner, error, bad, told.symm, (lies _ _ rfl).1⟩

end Responder.Template
