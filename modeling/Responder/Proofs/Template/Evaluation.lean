/-
# Responder.Proofs.Template.Evaluation -- what evaluation can fail on

The calls of a pipeline are the commands it was read from (`Pipeline.calls_of_ofCommands`),
and a pipeline is evaluated as they are carried out one after another, at any depth:
so no call ever gets a wrong number of arguments (`Pipeline.eval_calls`).
What is left to fail is the data, and a fault names the place where it does: a
chain steps through a value that has no fields, or a name is no string
(`Pipeline.blames_of_eval`).
-/
import Responder.Proofs.Template.Command
import Responder.Proofs.Template.Call

namespace Responder.Template

set_option autoImplicit false

/-! ## Commands as calls -/

/-- A command that was read, as it is carried out. -/
def Command.carried : Command → Call
  | .value o => .value o.arg
  | .call args => .field (args.map Operand.arg)

theorem Pipeline.calls_eq (p : Pipeline) : p.calls = p.commands.map Command.carried := by
  induction p using Pipeline.rec (motive_1 := fun _ => True) with
  | value o => rfl
  | field object name => rfl
  | pipe p object ih =>
      rw [Pipeline.calls, ih, Pipeline.commands, List.map_append]
      rfl
  | _ => trivial

/-- A pipeline has the calls that it was read from, with the arguments that stand there. -/
theorem Pipeline.calls_of_ofCommands {start : Nat} {cs : List Command} {p : Pipeline}
    (made : Pipeline.ofCommands start cs = .ok p) : p.calls = cs.map Command.carried := by
  rw [p.calls_eq, Pipeline.ofCommands_eq_ok_iff.1 made]

theorem Pipeline.calls_ne_nil (p : Pipeline) : p.calls ≠ [] := by
  rw [p.calls_eq]
  exact List.map_eq_nil_iff.not.2 p.commands_ne_nil

/-! ## Commands one after another -/

variable (dot : Json)

/-- The last of several commands is handed the value of those before it. -/
theorem evalAll_concat {calls : List Call} (nonempty : calls ≠ []) (piped : Option Json) (last : Call) :
    Call.evalAll dot piped (calls ++ [last]) =
      Call.evalAll dot piped calls >>= fun value => last.eval dot (some value) := by
  induction calls generalizing piped with
  | nil => exact absurd rfl nonempty
  | cons first rest ih =>
      rw [List.cons_append, Call.evalAll, Call.evalAll]
      cases first.eval dot piped with
      | error fault => rfl
      | ok value =>
          cases rest with
          | nil =>
              show Call.evalAll dot (some value) [last] = last.eval dot (some value)
              rw [Call.evalAll]
              cases last.eval dot (some value) <;> rfl
          | cons second more => exact ih (List.cons_ne_nil _ _) (some value)

theorem evalAll_singleton (piped : Option Json) (call : Call) :
    Call.evalAll dot piped [call] = call.eval dot piped := by
  rw [Call.evalAll]
  cases call.eval dot piped <;> rfl

mutual

theorem Operand.eval_arg : (o : Operand) → o.arg.eval dot = (o.eval dot).mapError .data
  | .dot => rfl
  | .chain names => rfl
  | .literal l => rfl
  | .group p => by
      rw [Operand.arg, Arg.eval, Operand.eval]
      exact p.eval_calls

/-- **A pipeline is evaluated as its commands are carried out**, so only data can fail it. -/
theorem Pipeline.eval_calls : (p : Pipeline) → Call.evalAll dot none p.calls = (p.eval dot).mapError .data
  | .value o => by
      rw [Pipeline.calls, evalAll_singleton, Call.eval, Pipeline.eval]
      exact o.eval_arg
  | .field object name => by
      rw [Pipeline.calls, evalAll_singleton, Call.eval, Pipeline.eval, Arg.evalAll, Arg.evalAll, Arg.evalAll,
        object.eval_arg, name.eval_arg]
      cases object.eval dot with
      | error fault => rfl
      | ok first => cases name.eval dot <;> rfl
  | .pipe p object => by
      rw [Pipeline.calls, evalAll_concat dot p.calls_ne_nil, p.eval_calls, Pipeline.eval]
      cases p.eval dot with
      | error fault => rfl
      | ok name =>
          show Call.eval dot (some name) (.field [object.arg]) = _
          rw [Call.eval, Arg.evalAll, Arg.evalAll, object.eval_arg]
          cases object.eval dot <;> rfl

end

-- no pipeline has these calls
example : Call.evalAll .null none [.value .dot, .field [.dot, .dot]] = .error .argCount := by rfl

/-! ## Faults -/

variable {dot}

/-- A chain fails where it steps through a value that is there and has no fields. -/
theorem exists_of_chainValue_error {names : List String} {value : Json} {fault : RenderFault}
    (failed : chainValue names value = .error fault) :
    ∃ front name back reached, names = front ++ name :: back ∧ chainValue front value = .ok reached ∧
      reached.shape ≠ .null ∧ reached.shape ≠ .object ∧ fault = .noField name reached.shape := by
  induction names generalizing value with
  | nil => cases failed
  | cons name names ih =>
      cases value with
      | object members =>
          obtain ⟨front, last, back, reached, split, led, rest⟩ := ih failed
          exact ⟨name :: front, last, back, reached, by rw [split, List.cons_append], led, rest⟩
      | null =>
          obtain ⟨front, last, back, reached, split, led, rest⟩ := ih failed
          exact ⟨name :: front, last, back, reached, by rw [split, List.cons_append], led, rest⟩
      | bool b | number n | string s | array items =>
          cases failed
          exact ⟨[], name, names, _, rfl, rfl, Json.Shape.noConfusion, Json.Shape.noConfusion, rfl⟩

theorem fieldValue_eq_error_iff {object name : Json} {fault : RenderFault} :
    fieldValue object name = .error fault ↔ name.shape ≠ .string ∧ fault = .nameNotString name.shape := by
  cases name <;> simp [fieldValue, Json.shape, eq_comm]

mutual

/-- What inside an operand is at fault on a record. -/
inductive Operand.Blames (dot : Json) : Operand → RenderFault → Prop where
  /-- A chain steps on through a value that it has reached and that is neither null nor an object. -/
  | chain {front back : List String} {name : String} {reached : Json}
      (led : chainValue front dot = .ok reached) (present : reached.shape ≠ .null)
      (fieldless : reached.shape ≠ .object) :
      Operand.Blames dot (.chain (front ++ name :: back)) (.noField name reached.shape)
  | group {p : Pipeline} {fault : RenderFault} (inside : Pipeline.Blames dot p fault) :
      Operand.Blames dot (.group p) fault

/-- What inside a pipeline is at fault on a record. -/
inductive Pipeline.Blames (dot : Json) : Pipeline → RenderFault → Prop where
  | value {o : Operand} {fault : RenderFault} (inside : Operand.Blames dot o fault) :
      Pipeline.Blames dot (.value o) fault
  | fieldObject {object name : Operand} {fault : RenderFault} (inside : Operand.Blames dot object fault) :
      Pipeline.Blames dot (.field object name) fault
  | fieldName {object name : Operand} {fault : RenderFault} (inside : Operand.Blames dot name fault) :
      Pipeline.Blames dot (.field object name) fault
  /-- The name of a field has a value that is no string. -/
  | fieldNamed {object name : Operand} {named : Json} (evaluated : name.eval dot = .ok named)
      (notString : named.shape ≠ .string) :
      Pipeline.Blames dot (.field object name) (.nameNotString named.shape)
  | pipeName {p : Pipeline} {object : Operand} {fault : RenderFault} (inside : Pipeline.Blames dot p fault) :
      Pipeline.Blames dot (.pipe p object) fault
  | pipeObject {p : Pipeline} {object : Operand} {fault : RenderFault}
      (inside : Operand.Blames dot object fault) : Pipeline.Blames dot (.pipe p object) fault
  /-- What is piped as the name of a field is no string. -/
  | pipeNamed {p : Pipeline} {object : Operand} {named : Json} (evaluated : p.eval dot = .ok named)
      (notString : named.shape ≠ .string) :
      Pipeline.Blames dot (.pipe p object) (.nameNotString named.shape)

end

mutual

theorem Operand.blames_of_eval : {o : Operand} → {fault : RenderFault} → o.eval dot = .error fault →
    o.Blames dot fault
  | .dot, _, failed => by cases failed
  | .chain names, fault, failed => by
      obtain ⟨front, name, back, reached, rfl, led, present, fieldless, rfl⟩ :=
        exists_of_chainValue_error failed
      exact .chain led present fieldless
  | .literal l, _, failed => by cases failed
  | .group p, fault, failed => .group (p.blames_of_eval failed)

/-- **Evaluation fails on data, and the fault says on which.** -/
theorem Pipeline.blames_of_eval : {p : Pipeline} → {fault : RenderFault} → p.eval dot = .error fault →
    p.Blames dot fault
  | .value o, fault, failed => .value (o.blames_of_eval failed)
  | .field object name, fault, failed => by
      rcases bind_eq_error_iff.1 failed with atObject | ⟨first, -, later⟩
      · exact .fieldObject (object.blames_of_eval atObject)
      · rcases bind_eq_error_iff.1 later with atName | ⟨named, evaluated, calling⟩
        · exact .fieldName (name.blames_of_eval atName)
        · obtain ⟨notString, rfl⟩ := fieldValue_eq_error_iff.1 calling
          exact .fieldNamed evaluated notString
  | .pipe p object, fault, failed => by
      rcases bind_eq_error_iff.1 failed with atName | ⟨named, evaluated, later⟩
      · exact .pipeName (p.blames_of_eval atName)
      · rcases bind_eq_error_iff.1 later with atObject | ⟨first, -, calling⟩
        · exact .pipeObject (object.blames_of_eval atObject)
        · obtain ⟨notString, rfl⟩ := fieldValue_eq_error_iff.1 calling
          exact .pipeNamed evaluated notString

end

end Responder.Template
