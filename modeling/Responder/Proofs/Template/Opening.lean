/-
# Responder.Proofs.Template.Opening -- where the actions of a source open

The first braces of a source open an action or comment, and so do the first behind
each that is read (`Opens`).  If all are read the source is scanned, and its actions
are what opens in it (`exists_opens_of_mem_scanFrom`, `exists_mem_scanFrom_of_opens`).
If one is not, it is the last that opens, and the source has its flaw
(`exists_opens_of_scanFrom_flaw`, `Opens.eq_or_earlier`).
-/
import Responder.Proofs.Template.Remainder

namespace Responder.Template

set_option autoImplicit false

variable {offset : Nat} {cs before before' body body' rest : List Char}

/-! ## The first braces -/

/-- A source is a text and then braces, the first that open in it. -/
structure FirstBraces (cs before body : List Char) : Prop where
  split : cs = before ++ '\x7b' :: '\x7b' :: body
  first : ¬ ['\x7b', '\x7b'] <:+: before ++ ['\x7b']

theorem firstBraces_of_splitOpening (opened : splitOpening cs = (before, some body)) :
    FirstBraces cs before body := by
  fun_induction splitOpening cs generalizing before with
  | case1 rest =>
      cases opened
      exact ⟨rfl, by decide⟩
  | case2 c cs noOpening ih =>
      obtain ⟨rfl, behind⟩ := Prod.mk.inj opened
      obtain ⟨split, first⟩ := ih (Prod.ext rfl behind)
      refine ⟨congrArg (c :: ·) split, fun opens => ?_⟩
      rcases List.infix_cons_iff.1 opens with here | later
      · obtain ⟨rfl, second⟩ := List.cons_prefix_cons.1 here
        -- the second brace would be the first character of what follows
        obtain ⟨more, eq⟩ : ∃ more, '\x7b' :: more = (splitOpening cs).1 ++ ['\x7b'] := second
        rw [List.append_cons, ← eq] at split
        exact noOpening _ rfl split
      · exact first later
  | case3 => cases opened

theorem splitOpening_of_firstBraces (braces : FirstBraces cs before body) :
    splitOpening cs = (before, some body) := by
  obtain ⟨rfl, first⟩ := braces
  induction before with
  | nil => rfl
  | cons c before ih =>
      have later := ih fun opens => first (opens.trans (List.suffix_cons c _).isInfix)
      rw [List.cons_append, splitOpening, later]
      -- no braces open at the character in front, since none do before its text ends
      rintro tail rfl eq
      apply first
      cases before with
      | nil => exact List.infix_rfl
      | cons d before =>
          cases eq
          exact (List.prefix_append ['\x7b', '\x7b'] (before ++ ['\x7b'])).isInfix

theorem FirstBraces.unique (braces : FirstBraces cs before body) (braces' : FirstBraces cs before' body') :
    before = before' ∧ body = body' := by
  have same := (splitOpening_of_firstBraces braces).symm.trans (splitOpening_of_firstBraces braces')
  obtain ⟨front, behind⟩ := Prod.mk.inj same
  exact ⟨front, Option.some.inj behind⟩

/-! ## Actions and comments that open -/

/-- Behind `before`, braces open an action or comment with `body` and all that follows it: the first
braces do, and so do the first behind an action or comment that is read. -/
inductive Opens : List Char → List Char → List Char → Prop
  | first {cs before body : List Char} (braces : FirstBraces cs before body) : Opens cs before body
  | later {cs text taken rest before body : List Char} {start : Nat} {segment : Segment}
      (braces : FirstBraces cs text (taken ++ rest))
      (read : action start (taken ++ rest) = .ok (segment, rest)) (behind : Opens rest before body) :
      Opens cs (text ++ '\x7b' :: '\x7b' :: (taken ++ before)) body

theorem Opens.split (opens : Opens cs before body) : cs = before ++ '\x7b' :: '\x7b' :: body := by
  induction opens with
  | first braces => exact braces.split
  | later braces read behind ih =>
      rw [braces.split]
      conv_lhs => rw [ih]
      simp

/-- An action or comment that is read at one place is read at every other. -/
theorem exists_action_eq_ok {start : Nat} {segment : Segment} (read : action start body = .ok (segment, rest))
    (start' : Nat) : ∃ segment', action start' body = .ok (segment', rest) := by
  have moved := action_moved start 0 body
  have moved' := action_moved start' 0 body
  rw [Nat.add_zero] at moved moved'
  rw [moved] at read
  rcases here : action 0 body with flaw | ⟨segment', left⟩ <;> rw [here] at read moved'
  · cases read
  · cases read
    exact ⟨_, moved'⟩

/-- The place of braces behind a text, braces and what was read from there. -/
theorem place_behind (text : List Char) {taken : List Char} (whole : taken ++ rest = body)
    (before : List Char) : offset + byteCount text + 2 + (byteCount body - byteCount rest) + byteCount before =
      offset + byteCount (text ++ '\x7b' :: '\x7b' :: (taken ++ before)) := by
  have brace : ('\x7b' : Char).utf8Size = 1 := rfl
  rw [← whole]
  simp only [byteCount_append, byteCount, brace]
  omega

/-- The flaw of a source is that of an action or comment which opens in it. -/
theorem exists_opens_of_scanFrom_flaw {flaw : Flaw} (failed : scanFrom offset cs = .error flaw) :
    ∃ before body, Opens cs before body ∧ action (offset + byteCount before) body = .error flaw := by
  revert failed
  fun_induction scanFrom offset cs with
  | case1 => simp
  | case2 offset cs body opened start flaw' read =>
      intro failed
      cases failed
      exact ⟨_, body, .first (firstBraces_of_splitOpening (Prod.ext rfl opened)), read⟩
  | case3 offset cs body opened start segment rest read =>
      rename_i ih
      intro failed
      rcases later : scanFrom (start + 2 + (byteCount body - byteCount rest)) rest with flaw' | segments <;>
        rw [later] at failed <;> cases failed
      obtain ⟨before, inner, opens, there⟩ := ih later
      obtain ⟨taken, whole⟩ := action_suffix read
      rw [place_behind _ whole] at there
      subst whole
      exact ⟨_, inner, .later (firstBraces_of_splitOpening (Prod.ext rfl opened)) read opens, there⟩

/-- An action of a source opens in it, and is what is read from there. -/
theorem exists_opens_of_mem_scanFrom {segments : List Segment} (scanned : scanFrom offset cs = .ok segments)
    {tokens : List Placed} {place : Nat} {trim : Trim} (member : .action tokens place trim ∈ segments) :
    ∃ before body rest, Opens cs before body ∧ place = offset + byteCount before ∧
      action place body = .ok (.action tokens place trim, rest) := by
  revert segments
  fun_induction scanFrom offset cs with
  | case1 offset cs unopened =>
      intro segments scanned member
      cases scanned
      exact absurd member (action_not_mem_textSegment tokens place trim _)
  | case2 => simp
  | case3 offset cs body opened start segment rest read =>
      rename_i ih
      intro segments scanned member
      obtain ⟨later, scannedLater, eq⟩ := map_eq_ok_iff.1 scanned
      cases eq
      have braces := firstBraces_of_splitOpening (Prod.ext rfl opened)
      have inRest := (List.mem_append.1 member).resolve_left (action_not_mem_textSegment tokens place trim _)
      rcases List.mem_cons.1 inRest with rfl | inLater
      · obtain ⟨trim', isComment⟩ | ⟨tokens', trim', isAction⟩ := segment_of_action read
        · cases isComment
        · have here : place = start := (Segment.action.inj isAction).2.1
          rw [← here] at read
          exact ⟨_, body, rest, .first braces, here, read⟩
      · obtain ⟨before, inner, after, opens, here, readHere⟩ := ih scannedLater inLater
        obtain ⟨taken, whole⟩ := action_suffix read
        rw [place_behind _ whole] at here
        subst whole
        exact ⟨_, inner, after, .later braces read opens, here, readHere⟩

/-- Every action of a source lies in it. -/
theorem offset_of_mem_scanFrom {segments : List Segment} (scanned : scanFrom offset cs = .ok segments)
    {tokens : List Placed} {place : Nat} {trim : Trim} (member : .action tokens place trim ∈ segments) :
    offset ≤ place ∧ place ≤ offset + byteCount cs := by
  obtain ⟨before, body, after, opens, rfl, -⟩ := exists_opens_of_mem_scanFrom scanned member
  rw [opens.split, byteCount_append]
  omega

/-- What opens in a source that is scanned is read, and is one of its segments. -/
theorem exists_mem_scanFrom_of_opens {segments : List Segment} (scanned : scanFrom offset cs = .ok segments)
    (opens : Opens cs before body) : ∃ segment rest,
      action (offset + byteCount before) body = .ok (segment, rest) ∧ segment ∈ segments := by
  induction opens generalizing offset segments with
  | @first cs before body braces =>
      have opened := splitOpening_of_firstBraces braces
      rcases read : action (offset + byteCount before) body with flaw | ⟨segment, rest⟩
      · rw [scanFrom_flaw opened read] at scanned
        cases scanned
      · rw [scanFrom_action opened read] at scanned
        obtain ⟨later, -, rfl⟩ := map_eq_ok_iff.1 scanned
        exact ⟨segment, rest, rfl, by simp⟩
  | @later cs text taken rest before body start segment braces read behind ih =>
      obtain ⟨segment', read'⟩ := exists_action_eq_ok read (offset + byteCount text)
      rw [scanFrom_action (splitOpening_of_firstBraces braces) read'] at scanned
      obtain ⟨later, scannedLater, rfl⟩ := map_eq_ok_iff.1 scanned
      obtain ⟨found, left, there, member⟩ := ih scannedLater
      rw [place_behind text rfl] at there
      exact ⟨found, left, there, by simp [member]⟩

/-- **An action or comment that is not read is the last that opens**: all others stand further to the
front and are read. -/
theorem Opens.eq_or_earlier {start : Nat} {flaw : Flaw} (opens : Opens cs before body)
    (failed : action start body = .error flaw) (opens' : Opens cs before' body') :
    before' = before ∧ body' = body ∨ byteCount before' < byteCount before ∧
      ∃ segment rest, action (byteCount before') body' = .ok (segment, rest) := by
  induction opens generalizing before' with
  | @first cs before body braces =>
      cases opens' with
      | first braces' => exact .inl (braces'.unique braces)
      | later braces' read behind =>
          obtain ⟨rfl, rfl⟩ := braces.unique braces'
          obtain ⟨segment, again⟩ := exists_action_eq_ok read start
          rw [failed] at again
          cases again
  | @later cs text taken rest before body start' segment braces read behind ih =>
      cases opens' with
      | first braces' =>
          obtain ⟨rfl, rfl⟩ := braces.unique braces'
          obtain ⟨segment', again⟩ := exists_action_eq_ok read (byteCount text)
          refine .inr ⟨?_, segment', rest, again⟩
          rw [byteCount_append]
          exact Nat.lt_add_of_pos_right (Nat.add_pos_left (Char.utf8Size_pos _) _)
      | @later _ text' taken' rest' before' _ start'' segment' braces' read' behind' =>
          obtain ⟨rfl, whole⟩ := braces.unique braces'
          obtain ⟨found, again⟩ := exists_action_eq_ok read start''
          rw [← whole, again] at read'
          obtain ⟨-, rfl⟩ := Prod.mk.inj (Except.ok.inj read')
          obtain rfl := List.append_cancel_right whole
          rcases ih failed behind' with ⟨rfl, rfl⟩ | ⟨earlier, segment, left, readHere⟩
          · exact .inl ⟨rfl, rfl⟩
          · obtain ⟨found, there⟩ :=
              exists_action_eq_ok readHere (byteCount (text ++ '\x7b' :: '\x7b' :: (taken ++ before')))
            refine .inr ⟨?_, found, left, there⟩
            rw [byteCount_append, byteCount_append]
            simp only [byteCount, byteCount_append]
            omega

end Responder.Template
