/-
# Responder.Proofs.Template.Place -- places move with the source

What the scanner and the parser do depends on the text from a place on and on
nothing before it.  So behind another text a source has the same segments,
pipelines and flaws, with their places moved by the length of that text
(`scanFrom_moved`, `Segment.read_moved`), and the line of a moved place lies below
the lines of that text (`lineAt_append_moved`).
-/
import Responder.Proofs.Template.Reading
import Responder.Proofs.Template.Scan
import Responder.Template.Basic

namespace Responder.Template

set_option autoImplicit false

/-! ## Results whose value and error change together -/

section Results

universe u

variable {ε ε' : Type} {α α' β β' : Type u}

/-- A result with its value and its error changed. -/
def changed (value : α → α') (error : ε → ε') : Except ε α → Except ε' α'
  | .ok a => .ok (value a)
  | .error e => .error (error e)

@[simp] theorem changed_ok (value : α → α') (error : ε → ε') (a : α) :
    changed value error (.ok a) = .ok (value a) := rfl

@[simp] theorem changed_error (value : α → α') (error : ε → ε') (e : ε) :
    changed value error (.error e) = .error (error e) := rfl

theorem changed_bind (value : α → α') (value' : β → β') {error : ε → ε'} {x : Except ε α}
    {f : α → Except ε β} {g : α' → Except ε' β'}
    (step : ∀ a, g (value a) = changed value' error (f a)) :
    changed value error x >>= g = changed value' error (x >>= f) := by
  cases x with
  | error e => rfl
  | ok a => exact step a

theorem changed_map {value : α → α'} {value' : β → β'} {error : ε → ε'} {x : Except ε α}
    {f : α → β} {g : α' → β'} (step : ∀ a, g (value a) = value' (f a)) :
    (changed value error x).map g = changed value' error (x.map f) := by
  cases x with
  | error e => rfl
  | ok a => exact congrArg Except.ok (step a)

theorem mapM_changed {value : α → α'} {value' : β → β'} {error : ε → ε'}
    {f : α → Except ε β} {g : α' → Except ε' β'}
    (step : ∀ a, g (value a) = changed value' error (f a)) (xs : List α) :
    (xs.map value).mapM g = changed (List.map value') error (xs.mapM f) := by
  induction xs with
  | nil => rfl
  | cons x rest ih =>
      rw [List.map_cons, List.mapM_cons, List.mapM_cons, step, ih]
      cases f x with
      | error e => rfl
      | ok b => cases rest.mapM f <;> rfl

theorem foldlM_changed (value : α → α') (value' : β → β') {error : ε → ε'}
    {f : β → α → Except ε β} {g : β' → α' → Except ε' β'}
    (step : ∀ b a, g (value' b) (value a) = changed value' error (f b a)) (xs : List α) (start : β) :
    (xs.map value).foldlM g (value' start) = changed value' error (xs.foldlM f start) := by
  induction xs generalizing start with
  | nil => rfl
  | cons x rest ih =>
      rw [List.map_cons, List.foldlM_cons, List.foldlM_cons, step]
      exact changed_bind value' value' ih

end Results

/-! ## Moved places -/

/-- A flaw behind `k` more bytes of source. -/
def Flaw.moved (k : Nat) (f : Flaw) : Flaw := { f with offset := k + f.offset }

/-- A token behind `k` more bytes of source. -/
def Placed.moved (k : Nat) (t : Placed) : Placed := { t with offset := k + t.offset }

/-- A segment behind `k` more bytes of source. -/
def Segment.moved (k : Nat) : Segment → Segment
  | .action tokens offset trim => .action (tokens.map (Placed.moved k)) (k + offset) trim
  | s => s

/-- A piece behind `k` more bytes of source. -/
def Piece.moved (k : Nat) : Piece → Piece
  | .action pipeline offset trim => .action pipeline (k + offset) trim
  | p => p

/-- A node behind `k` more bytes of source. -/
def Node.moved (k : Nat) : Node → Node
  | .action pipeline offset => .action pipeline (k + offset)
  | n => n

/-- A syntax error behind `k` more bytes of source. -/
def SyntaxError.moved (k : Nat) : SyntaxError → SyntaxError
  | .flaw f => .flaw (f.moved k)
  | e => e

/-- A frame whose tokens stand behind `k` more bytes of source. -/
def Frame.moved (k : Nat) (f : Frame) : Frame := { f with start := f.start.map (k + ·) }

/-- A reading whose tokens stand behind `k` more bytes of source. -/
def Reading.moved (k : Nat) (r : Reading) : Reading := ⟨r.inner.moved k, r.outer.map (Frame.moved k)⟩

variable (k : Nat)

/-! ## Tokens -/

theorem takeNumber_moved (offset : Nat) (cs : List Char) :
    takeNumber (k + offset) cs = changed id (Flaw.moved k) (takeNumber offset cs) := by
  unfold takeNumber
  dsimp only
  split <;> rfl

theorem takeString_moved (start offset : Nat) (cs : List Char) :
    takeString (k + start) (k + offset) cs = changed id (Flaw.moved k) (takeString start offset cs) := by
  fun_induction takeString start offset cs with
  | case1 | case2 | case3 => rfl
  | case4 offset c rest e known ih =>
      rw [takeString, known, Nat.add_assoc, ih]
      exact changed_map fun _ => rfl
  | case5 offset c rest unknown =>
      rw [takeString, unknown]
      rfl
  | case6 offset rest noQuote noBreak noMore =>
      rw [takeString.eq_5 _ _ _ _ noQuote noBreak noMore, if_pos rfl]
      rfl
  | case7 offset c rest noQuote noBreak noMore noSlash ih =>
      rw [takeString.eq_5 _ _ _ _ noQuote noBreak noMore, if_neg noSlash, Nat.add_assoc, ih]
      exact changed_map fun _ => rfl

theorem takeToken_moved (offset : Nat) (cs : List Char) :
    takeToken (k + offset) cs = changed id (Flaw.moved k) (takeToken offset cs) := by
  cases cs with
  | nil => rfl
  | cons c rest =>
      simp only [takeToken]
      split_ifs with dot quote backQuote pipe openParen closeParen starts name
      · split <;> rfl
      · rw [Nat.add_assoc, takeString_moved]
        exact changed_map fun _ => rfl
      · split <;> rfl
      · rfl
      · rfl
      · rfl
      · exact takeNumber_moved k offset (c :: rest)
      · rfl
      · rfl

/-! ## Segments -/

/-- The end of an action behind `k` more bytes of source. -/
abbrev movedTokens (k : Nat) (p : List Placed × Bool × List Char) : List Placed × Bool × List Char :=
  (p.1.map (Placed.moved k), p.2)

/-- A segment behind `k` more bytes of source, and what follows it. -/
abbrev movedSegment (k : Nat) (p : Segment × List Char) : Segment × List Char := (p.1.moved k, p.2)

theorem actionTokens_moved (start offset : Nat) (spaced : Bool) (cs : List Char) :
    actionTokens (k + start) (k + offset) spaced cs =
      changed (movedTokens k) (Flaw.moved k) (actionTokens start offset spaced cs) := by
  fun_induction actionTokens start offset spaced cs with
  | case1 offset spaced cs trim rest closed => exact actionTokens_closed closed
  | case2 offset spaced unclosed => exact actionTokens_nil _ _ _
  | case3 offset spaced cs unclosed some flaw failed =>
      exact actionTokens_flaw unclosed some (by rw [takeToken_moved, failed]; rfl)
  | case4 offset spaced cs unclosed some t rest taken ih =>
      have moved : takeToken (k + offset) cs = .ok (t, rest) := by
        rw [takeToken_moved, taken]
        rfl
      rw [actionTokens_cons moved, Nat.add_assoc, ih]
      exact changed_map fun _ => rfl

theorem comment_moved (start : Nat) (trimLeft : Bool) (body : List Char) :
    comment (k + start) trimLeft body =
      changed (movedSegment k) (Flaw.moved k) (comment start trimLeft body) := by
  unfold comment
  split
  · rfl
  · dsimp only
    split <;> rfl

theorem action_moved (start : Nat) (body : List Char) :
    action (k + start) body = changed (movedSegment k) (Flaw.moved k) (action start body) := by
  unfold action
  dsimp only
  split
  · exact comment_moved k start _ _
  · rw [Nat.add_assoc, Nat.add_assoc, ← Nat.add_assoc start, actionTokens_moved]
    exact changed_map fun _ => rfl

theorem map_moved_textSegment (chars : List Char) :
    (textSegment chars).map (Segment.moved k) = textSegment chars := by
  unfold textSegment
  split <;> rfl

/-- **Behind `k` more bytes of source a text has the same segments and flaws, at moved places.** -/
theorem scanFrom_moved (offset : Nat) (cs : List Char) :
    scanFrom (k + offset) cs =
      changed (List.map (Segment.moved k)) (Flaw.moved k) (scanFrom offset cs) := by
  fun_induction scanFrom offset cs with
  | case1 offset cs unopened =>
      have split : splitOpening cs = ((splitOpening cs).1, none) := by rw [← unopened]
      rw [scanFrom_text split, changed_ok, map_moved_textSegment]
  | case2 offset cs body opened start flaw failed =>
      have split : splitOpening cs = ((splitOpening cs).1, some body) := by rw [← opened]
      apply scanFrom_flaw split
      rw [Nat.add_assoc, action_moved, failed]
      rfl
  | case3 offset cs body opened start segment rest read ih =>
      have moved : action (k + offset + byteCount (splitOpening cs).1) body =
          .ok (segment.moved k, rest) := by
        rw [Nat.add_assoc, action_moved, read]
        rfl
      rw [scanFrom_action (by rw [← opened]) moved]
      have place : k + offset + byteCount (splitOpening cs).1 + 2 + (byteCount body - byteCount rest) =
          k + (start + 2 + (byteCount body - byteCount rest)) := by
        simp only [start]
        omega
      rw [place, ih]
      refine changed_map fun segments => ?_
      rw [List.map_append, map_moved_textSegment, List.map_cons]

/-! ## Pipelines -/

theorem ofCommands_moved (start : Nat) (cs : List Command) :
    Pipeline.ofCommands (k + start) cs =
      changed id (SyntaxError.moved k) (Pipeline.ofCommands start cs) := by
  have extend (p : Pipeline) (c : Command) :
      Pipeline.extend (k + start) p c = changed id (SyntaxError.moved k) (p.extend start c) := by
    unfold Pipeline.extend
    split <;> rfl
  cases cs with
  | nil => rfl
  | cons first rest =>
      have begin' : first.begin = changed id (SyntaxError.moved k) first.begin := by
        unfold Command.begin
        split <;> rfl
      have folded := foldlM_changed id id extend rest
      rw [List.map_id] at folded
      rw [Pipeline.ofCommands, Pipeline.ofCommands]
      conv_lhs => rw [begin']
      exact changed_bind id id folded

namespace Frame

theorem give_moved (f : Frame) (o : Operand) : (f.moved k).give o = (f.give o).moved k := by
  obtain ⟨start, complete, current⟩ := f
  cases current with
  | none => rfl
  | some c => cases c <;> rfl

end Frame

namespace Reading

/-- One step at moved places leads to the moved reading. -/
theorem step_moved (r : Reading) (t : Placed) :
    (r.moved k).step (t.moved k) = changed (Reading.moved k) (SyntaxError.moved k) (r.step t) := by
  obtain ⟨⟨start, complete, current⟩, outer⟩ := r
  obtain ⟨token, place⟩ := t
  have begun : (start.map (k + ·)).getD (k + place) = k + start.getD place := by
    cases start <;> rfl
  cases token with
  | pipe | dot | chain | text | number | bool | nil | openParen =>
      rcases current with _ | c | args <;> simp [step, moved, Placed.moved, Frame.moved, begun] <;> rfl
  | name name =>
      rcases current with _ | c | args
      · simp only [step, moved, Placed.moved, Frame.moved, begun]
        split <;> rfl
      · rfl
      · simp only [step, moved, Placed.moved, Frame.moved, nameError]
        split <;> rfl
  | closeParen =>
      cases current with
      | none => rfl
      | some c =>
          cases outer with
          | nil => rfl
          | cons g outer =>
              simp only [step, moved, Placed.moved, Frame.moved, begun, List.map_cons, Option.getD_some,
                ofCommands_moved]
              refine changed_bind id (Reading.moved k) fun p => ?_
              have given := g.give_moved k (.group p)
              exact congrArg (fun f => Except.ok (Reading.mk f (outer.map (Frame.moved k)))) given

theorem finish_moved (offset : Nat) (r : Reading) :
    (r.moved k).finish (k + offset) = changed id (SyntaxError.moved k) (r.finish offset) := by
  obtain ⟨⟨start, complete, current⟩, outer⟩ := r
  have begun : (start.map (k + ·)).getD (k + offset) = k + start.getD offset := by
    cases start <;> rfl
  cases current with
  | none => rfl
  | some c =>
      cases outer with
      | nil =>
          simp only [finish, moved, Frame.moved, List.map_nil, begun]
          exact ofCommands_moved k _ _
      | cons g outer =>
          simp only [finish, moved, Frame.moved, List.map_cons, begun]
          rfl

end Reading

/-- Tokens at moved places make the same pipeline, and flaws are moved. -/
theorem ofTokens_moved (offset : Nat) (tokens : List Placed) :
    Pipeline.ofTokens (k + offset) (tokens.map (Placed.moved k)) =
      changed id (SyntaxError.moved k) (Pipeline.ofTokens offset tokens) := by
  have start : (⟨Frame.empty, []⟩ : Reading) = Reading.moved k ⟨Frame.empty, []⟩ := rfl
  rw [Pipeline.ofTokens, start, foldlM_changed _ _ fun r t => r.step_moved k t]
  exact changed_bind (Reading.moved k) id fun r => r.finish_moved k offset

theorem Segment.read_moved (s : Segment) :
    (s.moved k).read = changed (Piece.moved k) (SyntaxError.moved k) s.read := by
  cases s with
  | text chars => rfl
  | comment trim => rfl
  | action tokens offset trim =>
      rw [moved, read, ofTokens_moved]
      exact changed_bind id (Piece.moved k) fun p => rfl

/-! ## Lines -/

theorem byteCount_append (cs ds : List Char) : byteCount (cs ++ ds) = byteCount cs + byteCount ds := by
  induction cs with
  | nil => simp [byteCount]
  | cons c cs ih => simp [byteCount, ih, Nat.add_assoc]

/-- A moved place lies below all line breaks of the text in front. -/
theorem breaksBefore_append_moved (cs ds : List Char) (offset : Nat) :
    breaksBefore (cs ++ ds) (byteCount cs + offset) = cs.count '\n' + breaksBefore ds offset := by
  induction cs with
  | nil => simp [byteCount]
  | cons c cs ih =>
      have size := c.utf8Size_pos
      have behind : byteCount (c :: cs) + offset ≠ 0 := by
        simp only [byteCount]
        omega
      have left : byteCount (c :: cs) + offset - c.utf8Size = byteCount cs + offset := by
        simp only [byteCount]
        omega
      simp only [List.cons_append, breaksBefore, if_neg behind, left, ih, List.count_cons, beq_iff_eq]
      omega

theorem lineAt_append_moved (cs ds : List Char) (offset : Nat) :
    lineAt (cs ++ ds) (byteCount cs + offset) = lineAt ds offset + cs.count '\n' := by
  rw [lineAt, lineAt, breaksBefore_append_moved]
  omega

/-- The place behind a text lies below its line breaks. -/
theorem lineAt_byteCount (before after : List Char) :
    lineAt (before ++ after) (byteCount before) = 1 + before.count '\n' := by
  have moved := lineAt_append_moved before after 0
  have first : lineAt after 0 = 1 := by cases after <;> rfl
  rw [Nat.add_zero, first] at moved
  exact moved

/-- A place inside a text keeps its line whatever stands behind the text. -/
theorem breaksBefore_append_of_le {cs : List Char} {offset : Nat} (inside : offset ≤ byteCount cs)
    (ds : List Char) : breaksBefore (cs ++ ds) offset = breaksBefore cs offset := by
  induction cs generalizing offset with
  | nil =>
      obtain rfl : offset = 0 := Nat.le_zero.1 inside
      cases ds <;> rfl
  | cons c cs ih =>
      rw [List.cons_append, breaksBefore, breaksBefore, ih]
      simp only [byteCount] at inside
      omega

theorem lineAt_append_of_le {cs : List Char} {offset : Nat} (inside : offset ≤ byteCount cs)
    (ds : List Char) : lineAt (cs ++ ds) offset = lineAt cs offset := by
  rw [lineAt, lineAt, breaksBefore_append_of_le inside]

end Responder.Template
