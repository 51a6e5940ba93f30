/-
# Responder.Proofs.Template.Reading -- the reader of actions and what it has read

A reading holds all that has been read: `Reading.tokens` are the tokens that led
to it, and one step adds the token it reads (`Reading.step_written`), so nothing
is dropped or read twice.  Conversely the tokens of an operand read as that
operand in any frame that awaits one (`Operand.read_written`), which is proved
together with the same fact for pipelines.  So tokens make a pipeline exactly if
they are its own (`Pipeline.ofTokens_eq_ok_iff`).
-/
import Responder.Proofs.Template.Command

namespace Responder.Template

set_option autoImplicit false

/-! ## What a reading has read -/

namespace Frame

/-- The tokens that led to a frame. -/
def tokens (f : Frame) : List Token :=
  f.complete.flatMap (fun c => c.tokens ++ [.pipe]) ++ (f.current.map Command.tokens).getD []

/-- Whether an operand may come next: no other operand stands there already. -/
def Awaits (f : Frame) : Prop := ∀ o, f.current ≠ some (.value o)

/-- A frame whose first token, if it has none yet, is at a place. -/
def begunAt (f : Frame) (place : Nat) : Frame := { f with start := some (f.start.getD place) }

@[simp] theorem tokens_empty : empty.tokens = [] := rfl

theorem awaits_empty : empty.Awaits := by
  intro o
  simp [empty]

@[simp] theorem tokens_begunAt (f : Frame) (place : Nat) : (f.begunAt place).tokens = f.tokens := rfl

theorem tokens_give {f : Frame} (awaits : f.Awaits) (o : Operand) :
    (f.give o).tokens = f.tokens ++ o.tokens := by
  obtain ⟨start, complete, current⟩ := f
  cases current with
  | none => simp [give, tokens, Command.tokens]
  | some c =>
      cases c with
      | value other => exact absurd rfl (awaits other)
      | call args => simp [give, tokens, Command.tokens]

theorem tokens_current {f : Frame} {c : Command} (current : f.current = some c) :
    f.tokens = Command.joined (f.complete ++ [c]) := by
  rw [Command.joined_snoc, tokens, current]
  rfl

end Frame

namespace Reading

/-- The tokens that led to frames in which a parenthesis is still open. -/
def outerTokens : List Frame → List Token
  | [] => []
  | f :: outer => outerTokens outer ++ f.tokens ++ [.openParen]

/-- The tokens that led to a reading. -/
def tokens (r : Reading) : List Token := outerTokens r.outer ++ r.inner.tokens

/-- Whether every open parenthesis stands where an operand may. -/
def Nested (r : Reading) : Prop := ∀ f ∈ r.outer, f.Awaits

end Reading

theorem Token.tokens_of_operand? {t : Token} {o : Operand} (made : t.operand? = some o) :
    o.tokens = [t] := by
  cases t <;> cases made <;> rfl

namespace Reading

variable {f : Frame} {outer : List Frame}

/-! One equation for each thing that a step can do. -/

theorem step_pipe {c : Command} (current : f.current = some c) (place : Nat) :
    step ⟨f, outer⟩ ⟨.pipe, place⟩ =
      .ok ⟨⟨(f.begunAt place).start, f.complete ++ [c], none⟩, outer⟩ := by
  simp [step, current, Frame.begunAt]

theorem step_closeParen {c : Command} {g : Frame} (current : f.current = some c) (place : Nat) :
    step ⟨f, g :: outer⟩ ⟨.closeParen, place⟩ =
      (Pipeline.ofCommands (f.start.getD place) (f.complete ++ [c])).map
        fun p => ⟨g.give (.group p), outer⟩ := by
  simp only [step, current, Option.getD_some]
  cases Pipeline.ofCommands (f.start.getD place) (f.complete ++ [c]) <;> rfl

theorem step_openParen (awaits : f.Awaits) (place : Nat) :
    step ⟨f, outer⟩ ⟨.openParen, place⟩ = .ok ⟨Frame.empty, f.begunAt place :: outer⟩ := by
  obtain ⟨start, complete, current⟩ := f
  cases current with
  | none => rfl
  | some c =>
      cases c with
      | value o => exact absurd rfl (awaits o)
      | call args => rfl

theorem step_fieldName (current : f.current = none) (place : Nat) :
    step ⟨f, outer⟩ ⟨.name fieldName, place⟩ =
      .ok ⟨{ f.begunAt place with current := some (.call []) }, outer⟩ := by
  simp [step, current, Frame.begunAt]

theorem step_operand {t : Token} {o : Operand} (made : t.operand? = some o) (awaits : f.Awaits)
    (place : Nat) : step ⟨f, outer⟩ ⟨t, place⟩ = .ok ⟨(f.begunAt place).give o, outer⟩ := by
  obtain ⟨start, complete, current⟩ := f
  cases current with
  | none => cases t <;> cases made <;> rfl
  | some c =>
      cases c with
      | value other => exact absurd rfl (awaits other)
      | call args => cases t <;> cases made <;> rfl

/-- Behind an operand only a pipe or a closing parenthesis is read. -/
theorem awaits_of_step {token : Token} {place : Nat} {r : Reading} (noPipe : token ≠ .pipe)
    (noClose : token ≠ .closeParen) (stepped : step ⟨f, outer⟩ ⟨token, place⟩ = .ok r) :
    f.Awaits := by
  intro o current
  cases token <;> simp [step, current] at noPipe noClose stepped

/-- All that a step can do when it does not fail. -/
theorem step_cases {t : Placed} {r : Reading} (stepped : step ⟨f, outer⟩ t = .ok r) :
    (t.token = .pipe ∧ ∃ c, f.current = some c ∧
      r = ⟨⟨(f.begunAt t.offset).start, f.complete ++ [c], none⟩, outer⟩) ∨
    (t.token = .closeParen ∧ ∃ c g rest p, f.current = some c ∧ outer = g :: rest ∧
      Pipeline.commands p = f.complete ++ [c] ∧ r = ⟨g.give (.group p), rest⟩) ∨
    (t.token = .openParen ∧ f.Awaits ∧ r = ⟨Frame.empty, f.begunAt t.offset :: outer⟩) ∨
    (t.token = .name fieldName ∧ f.current = none ∧
      r = ⟨{ f.begunAt t.offset with current := some (.call []) }, outer⟩) ∨
    (∃ o, t.token.operand? = some o ∧ f.Awaits ∧ r = ⟨(f.begunAt t.offset).give o, outer⟩) := by
  obtain ⟨token, place⟩ := t
  have operand (o : Operand) (made : token.operand? = some o) (awaits : f.Awaits) :
      r = ⟨(f.begunAt place).give o, outer⟩ := by
    rw [step_operand made awaits] at stepped
    cases stepped
    rfl
  cases token with
  | pipe =>
      refine .inl ⟨rfl, ?_⟩
      cases current : f.current with
      | none => simp [step, current] at stepped
      | some c =>
          rw [step_pipe current] at stepped
          cases stepped
          exact ⟨c, rfl, rfl⟩
  | closeParen =>
      refine .inr (.inl ⟨rfl, ?_⟩)
      cases current : f.current with
      | none => simp [step, current] at stepped
      | some c =>
          cases outer with
          | nil => simp [step, current] at stepped
          | cons g rest =>
              rw [step_closeParen current] at stepped
              cases made : Pipeline.ofCommands (f.start.getD place) (f.complete ++ [c]) with
              | error e =>
                  rw [made] at stepped
                  cases stepped
              | ok p =>
                  rw [made] at stepped
                  cases stepped
                  exact ⟨c, g, rest, p, rfl, rfl, Pipeline.ofCommands_eq_ok_iff.1 made, rfl⟩
  | openParen =>
      have awaits := awaits_of_step (by simp) (by simp) stepped
      rw [step_openParen awaits] at stepped
      cases stepped
      exact .inr (.inr (.inl ⟨rfl, awaits, rfl⟩))
  | name text =>
      refine .inr (.inr (.inr (.inl ?_)))
      cases current : f.current with
      | none =>
          by_cases known : text = fieldName
          · subst known
            rw [step_fieldName current] at stepped
            cases stepped
            exact ⟨rfl, rfl, rfl⟩
          · simp [step, current, known] at stepped
      | some c => cases c <;> simp [step, current] at stepped
  | dot | chain names | text value | number value | bool value | nil =>
      have awaits := awaits_of_step (by simp) (by simp) stepped
      exact .inr (.inr (.inr (.inr ⟨_, rfl, awaits, operand _ rfl awaits⟩)))

/-- **A step adds the token it reads, and nothing else, to what has been read.** -/
theorem step_written {r r' : Reading} {t : Placed} (nested : r.Nested) (stepped : r.step t = .ok r') :
    r'.Nested ∧ r'.tokens = r.tokens ++ [t.token] := by
  obtain ⟨f, outer⟩ := r
  obtain ⟨token, place⟩ := t
  obtain ⟨rfl, c, current, rfl⟩ | ⟨rfl, c, g, rest, p, current, rfl, written, rfl⟩ |
    ⟨rfl, awaits, rfl⟩ | ⟨rfl, current, rfl⟩ | ⟨o, made, awaits, rfl⟩ := step_cases stepped
  · exact ⟨nested, by simp [tokens, Frame.tokens, current]⟩
  · refine ⟨fun h member => nested h (List.mem_cons_of_mem _ member), ?_⟩
    rw [tokens, Frame.tokens_give (nested g (by simp))]
    simp [tokens, outerTokens, Frame.tokens_current current, ← written, Operand.tokens,
      Pipeline.tokens_eq_joined]
  · refine ⟨fun h member => ?_, by simp [tokens, outerTokens]⟩
    rcases List.mem_cons.1 member with rfl | old
    · exact awaits
    · exact nested h old
  · exact ⟨nested, by simp [tokens, Frame.tokens, Frame.begunAt, current, Command.tokens]⟩
  · have awaits : (f.begunAt place).Awaits := awaits
    refine ⟨nested, ?_⟩
    rw [tokens, Frame.tokens_give awaits, Token.tokens_of_operand? made]
    simp [tokens]

/-- What has been read after any number of steps are the tokens of these steps. -/
theorem foldlM_written {r r' : Reading} {ts : List Placed} (nested : r.Nested)
    (read : ts.foldlM step r = .ok r') : r'.tokens = r.tokens ++ ts.map Placed.token := by
  induction ts generalizing r with
  | nil =>
      cases read
      simp
  | cons t rest ih =>
      rw [List.foldlM_cons, bind_eq_ok_iff] at read
      obtain ⟨middle, first, read⟩ := read
      obtain ⟨still, one⟩ := step_written nested first
      rw [ih still read, one]
      simp

end Reading

/-! ## What is written is read -/

theorem Token.read_operand {t : Token} {o : Operand} (made : t.operand? = some o) {ts : List Placed}
    {f : Frame} (outer : List Frame) (written : ts.map Placed.token = [t]) (awaits : f.Awaits) :
    ∃ place, ts.foldlM Reading.step ⟨f, outer⟩ = .ok ⟨(f.begunAt place).give o, outer⟩ := by
  obtain ⟨⟨_, place⟩, rfl, rfl⟩ := List.map_eq_singleton_iff.1 written
  refine ⟨place, ?_⟩
  rw [List.foldlM_cons, bind_eq_ok_iff]
  exact ⟨_, Reading.step_operand made awaits place, rfl⟩

theorem Literal.operand?_token (l : Literal) : l.token.operand? = some (.literal l) := by
  cases l <;> rfl

mutual

/-- The tokens of an operand read as that operand wherever one is awaited. -/
theorem Operand.read_written (o : Operand) {ts : List Placed} {f : Frame} (outer : List Frame)
    (written : ts.map Placed.token = o.tokens) (awaits : f.Awaits) :
    ∃ place, ts.foldlM Reading.step ⟨f, outer⟩ = .ok ⟨(f.begunAt place).give o, outer⟩ := by
  cases o with
  | dot => exact Token.read_operand rfl outer written awaits
  | chain names => exact Token.read_operand rfl outer written awaits
  | literal l => exact Token.read_operand l.operand?_token outer written awaits
  | group p =>
      rw [Operand.tokens, List.map_eq_cons_iff] at written
      obtain ⟨⟨-, place⟩, rest, rfl, rfl, written⟩ := written
      obtain ⟨us, vs, rfl, inside, closing⟩ := List.map_eq_append_iff.1 written
      obtain ⟨⟨-, closedAt⟩, rfl, rfl⟩ := List.map_eq_singleton_iff.1 closing
      obtain ⟨start, cs, c, read, commands⟩ := Pipeline.read_written p (f.begunAt place :: outer) inside
      refine ⟨place, ?_⟩
      rw [List.foldlM_cons, bind_eq_ok_iff]
      refine ⟨_, Reading.step_openParen awaits place, ?_⟩
      rw [List.foldlM_append, bind_eq_ok_iff]
      refine ⟨_, read, ?_⟩
      rw [List.foldlM_cons, Reading.step_closeParen rfl, commands, Pipeline.ofCommands_commands]
      rfl

/-- The tokens of a pipeline read as its commands, the last of which may go on. -/
theorem Pipeline.read_written (p : Pipeline) {ts : List Placed} (outer : List Frame)
    (written : ts.map Placed.token = p.tokens) :
    ∃ place cs c, ts.foldlM Reading.step ⟨Frame.empty, outer⟩ = .ok ⟨⟨some place, cs, some c⟩, outer⟩ ∧
      cs ++ [c] = p.commands := by
  cases p with
  | value o =>
      obtain ⟨place, read⟩ := o.read_written outer written Frame.awaits_empty
      exact ⟨place, [], .value o, read, rfl⟩
  | field object name =>
      rw [Pipeline.tokens, List.map_eq_cons_iff] at written
      obtain ⟨⟨-, place⟩, rest, rfl, rfl, written⟩ := written
      obtain ⟨us, vs, rfl, first, second⟩ := List.map_eq_append_iff.1 written
      let called : Frame := ⟨some place, [], some (.call [])⟩
      have awaits : called.Awaits := by simp [Frame.Awaits, called]
      obtain ⟨_, readObject⟩ := object.read_written outer first awaits
      obtain ⟨_, readName⟩ := name.read_written (f := called.give object) outer second
        (by simp [Frame.Awaits, Frame.give, called])
      refine ⟨place, [], .call [object, name], ?_, rfl⟩
      rw [List.foldlM_cons, bind_eq_ok_iff]
      refine ⟨_, Reading.step_fieldName rfl place, ?_⟩
      rw [List.foldlM_append, bind_eq_ok_iff]
      exact ⟨_, readObject, readName⟩
  | pipe p object =>
      rw [Pipeline.tokens] at written
      obtain ⟨us, vs, rfl, first, second⟩ := List.map_eq_append_iff.1 written
      rw [List.map_eq_cons_iff] at second
      obtain ⟨⟨-, pipedAt⟩, rest, rfl, rfl, second⟩ := second
      rw [List.map_eq_cons_iff] at second
      obtain ⟨⟨-, calledAt⟩, vs, rfl, rfl, second⟩ := second
      obtain ⟨place, cs, c, read, commands⟩ := p.read_written outer first
      let called : Frame := ⟨some place, cs ++ [c], some (.call [])⟩
      have awaits : called.Awaits := by simp [Frame.Awaits, called]
      obtain ⟨_, readObject⟩ := object.read_written outer second awaits
      refine ⟨place, cs ++ [c], .call [object], ?_, by rw [commands, Pipeline.commands]⟩
      rw [List.foldlM_append, bind_eq_ok_iff]
      refine ⟨_, read, ?_⟩
      rw [List.foldlM_cons, bind_eq_ok_iff]
      refine ⟨_, Reading.step_pipe rfl pipedAt, ?_⟩
      rw [List.foldlM_cons, bind_eq_ok_iff]
      exact ⟨_, Reading.step_fieldName rfl calledAt, readObject⟩

end

/-! ## Whole actions -/

namespace Pipeline

theorem tokens_of_finish {offset : Nat} {r : Reading} {p : Pipeline}
    (finished : r.finish offset = .ok p) : r.tokens = p.tokens := by
  obtain ⟨f, outer⟩ := r
  unfold Reading.finish at finished
  cases current : f.current with
  | none => simp [current] at finished
  | some c =>
      cases outer with
      | cons g rest => simp [current] at finished
      | nil =>
          simp only [current] at finished
          rw [tokens_eq_joined, ofCommands_eq_ok_iff.1 finished]
          simp [Reading.tokens, Reading.outerTokens, Frame.tokens_current current]

/-- Tokens make a pipeline exactly if they are what the pipeline is written as. -/
theorem ofTokens_eq_ok_iff {offset : Nat} {ts : List Placed} {p : Pipeline} :
    ofTokens offset ts = .ok p ↔ ts.map Placed.token = p.tokens := by
  rw [ofTokens, bind_eq_ok_iff]
  constructor
  · rintro ⟨r, read, finished⟩
    have nothing : Reading.Nested ⟨Frame.empty, []⟩ := by simp [Reading.Nested]
    rw [← tokens_of_finish finished, Reading.foldlM_written nothing read]
    rfl
  · intro written
    obtain ⟨place, cs, c, read, commands⟩ := p.read_written [] written
    refine ⟨_, read, ?_⟩
    exact ofCommands_eq_ok_iff.2 commands.symm

end Pipeline

end Responder.Template
