/-
# Responder.Proofs.Template.Command -- pipelines as sequences of commands

The grammar of actions is stated on sequences of commands: the first is an
operand or a call with two arguments, every later one a call with one argument
of its own (`Command.WellFormed`), and commands are written with a pipe between
any two (`Command.joined`).  A pipeline is the same thing as a well-formed
sequence (`Pipeline.wellFormed_iff`): `Pipeline.tokens` writes that sequence
(`Pipeline.tokens_eq_joined`), and `Pipeline.ofCommands` finds the pipeline
(`Pipeline.ofCommands_eq_ok_iff`).
-/
import Responder.Proofs.Except
import Responder.Template.Parser

namespace Responder.Template

set_option autoImplicit false

/-- The commands of a pipeline, in order. -/
def Pipeline.commands : Pipeline → List Command
  | .value o => [.value o]
  | .field object name => [.call [object, name]]
  | .pipe p object => p.commands ++ [.call [object]]

namespace Command

/-- A command written as tokens. -/
def tokens : Command → List Token
  | .value o => o.tokens
  | .call args => .name fieldName :: args.flatMap Operand.tokens

/-- Commands written with a pipe between any two. -/
def joined : List Command → List Token
  | [] => []
  | first :: later => first.tokens ++ later.flatMap fun c => .pipe :: c.tokens

/-- What may stand first: an operand, or a call with both arguments. -/
inductive First : Command → Prop where
  | value (o : Operand) : First (.value o)
  | call (object name : Operand) : First (.call [object, name])

/-- What may stand behind a pipe: a call with one argument, since the other is piped. -/
inductive Later : Command → Prop where
  | call (object : Operand) : Later (.call [object])

/-- The sequences of commands that are pipelines. -/
def WellFormed : List Command → Prop
  | [] => False
  | first :: later => first.First ∧ ∀ c ∈ later, c.Later

theorem wellFormed_append_later {cs : List Command} {c : Command} (formed : WellFormed cs)
    (later : c.Later) : WellFormed (cs ++ [c]) := by
  cases cs with
  | nil => exact formed.elim
  | cons first rest =>
      refine ⟨formed.1, fun d member => ?_⟩
      rcases List.mem_append.1 member with old | new
      · exact formed.2 d old
      · rw [List.mem_singleton.1 new]
        exact later

theorem flatMap_pipe_snoc (cs : List Command) (c : Command) :
    (cs ++ [c]).flatMap (fun d => Token.pipe :: d.tokens) =
      .pipe :: (cs.flatMap (fun d => d.tokens ++ [.pipe]) ++ c.tokens) := by
  induction cs with
  | nil => simp
  | cons d rest ih =>
      rw [List.cons_append, List.flatMap_cons, ih]
      simp

/-- A pipe before each command but the first is a pipe behind each but the last. -/
theorem joined_snoc (cs : List Command) (c : Command) :
    joined (cs ++ [c]) = cs.flatMap (fun d => d.tokens ++ [.pipe]) ++ c.tokens := by
  cases cs with
  | nil => simp [joined]
  | cons d rest =>
      rw [List.cons_append, joined, flatMap_pipe_snoc]
      simp

theorem joined_append_of_ne_nil {cs : List Command} (some : cs ≠ []) (c : Command) :
    joined (cs ++ [c]) = joined cs ++ .pipe :: c.tokens := by
  cases cs with
  | nil => exact absurd rfl some
  | cons d rest => simp [joined]

end Command

namespace Pipeline

theorem commands_ne_nil (p : Pipeline) : p.commands ≠ [] := by
  cases p <;> simp [commands]

/-- A pipeline is written as its commands are. -/
theorem tokens_eq_joined (p : Pipeline) : p.tokens = Command.joined p.commands := by
  induction p using Pipeline.rec (motive_1 := fun _ => True) with
  | value o => simp [tokens, commands, Command.joined, Command.tokens]
  | field object name => simp [tokens, commands, Command.joined, Command.tokens]
  | pipe p object ih =>
      rw [commands, Command.joined_append_of_ne_nil p.commands_ne_nil, ← ih]
      simp [tokens, Command.tokens]
  | _ => trivial

theorem wellFormed_commands (p : Pipeline) : Command.WellFormed p.commands := by
  induction p using Pipeline.rec (motive_1 := fun _ => True) with
  | value o => exact ⟨.value o, by simp⟩
  | field object name => exact ⟨.call object name, by simp⟩
  | pipe p object ih => exact Command.wellFormed_append_later ih (.call object)
  | _ => trivial

theorem exists_commands_append {p : Pipeline} {later : List Command}
    (formed : ∀ c ∈ later, c.Later) : ∃ q : Pipeline, q.commands = p.commands ++ later := by
  induction later generalizing p with
  | nil => exact ⟨p, by simp⟩
  | cons c rest ih =>
      obtain ⟨object⟩ := formed c (by simp)
      obtain ⟨q, written⟩ :=
        ih (p := .pipe p object) fun d member => formed d (List.mem_cons_of_mem _ member)
      exact ⟨q, by simpa [commands] using written⟩

/-- The well-formed sequences of commands are those of pipelines. -/
theorem wellFormed_iff {cs : List Command} :
    Command.WellFormed cs ↔ ∃ p : Pipeline, p.commands = cs := by
  constructor
  · intro formed
    cases cs with
    | nil => exact formed.elim
    | cons first later =>
        obtain ⟨o⟩ | ⟨object, name⟩ := formed.1
        · exact exists_commands_append (p := .value o) formed.2
        · exact exists_commands_append (p := .field object name) formed.2
  · rintro ⟨p, rfl⟩
    exact p.wellFormed_commands

theorem commands_of_extend {start : Nat} {p q : Pipeline} {c : Command}
    (extended : p.extend start c = .ok q) : q.commands = p.commands ++ [c] := by
  unfold extend at extended
  split at extended <;> cases extended
  rfl

theorem commands_of_foldlM_extend {start : Nat} {p q : Pipeline} {later : List Command}
    (extended : later.foldlM (extend start) p = .ok q) : q.commands = p.commands ++ later := by
  induction later generalizing p with
  | nil =>
      cases extended
      simp
  | cons c rest ih =>
      rw [List.foldlM_cons, bind_eq_ok_iff] at extended
      obtain ⟨middle, first, extended⟩ := extended
      rw [ih extended, commands_of_extend first]
      simp

theorem commands_of_begin {p : Pipeline} {c : Command} (begun : c.begin = .ok p) :
    p.commands = [c] := by
  unfold Command.begin at begun
  split at begun <;> cases begun <;> rfl

theorem ofCommands_commands (start : Nat) (p : Pipeline) : ofCommands start p.commands = .ok p := by
  induction p using Pipeline.rec (motive_1 := fun _ => True) with
  | value o => rfl
  | field object name => rfl
  | pipe p object ih =>
      cases eq : p.commands with
      | nil => exact absurd eq p.commands_ne_nil
      | cons first later =>
          rw [eq, ofCommands, bind_eq_ok_iff] at ih
          obtain ⟨q, begun, extended⟩ := ih
          rw [commands, eq, List.cons_append, ofCommands, bind_eq_ok_iff]
          refine ⟨q, begun, ?_⟩
          rw [List.foldlM_append, bind_eq_ok_iff]
          exact ⟨p, extended, rfl⟩
  | _ => trivial

/-- A sequence of commands makes the one pipeline that has these commands. -/
theorem ofCommands_eq_ok_iff {start : Nat} {cs : List Command} {p : Pipeline} :
    ofCommands start cs = .ok p ↔ p.commands = cs := by
  constructor
  · intro made
    cases cs with
    | nil => cases made
    | cons first later =>
        rw [ofCommands, bind_eq_ok_iff] at made
        obtain ⟨q, begun, extended⟩ := made
        rw [commands_of_foldlM_extend extended, commands_of_begin begun]
        rfl
  · rintro rfl
    exact ofCommands_commands start p

end Pipeline

end Responder.Template
