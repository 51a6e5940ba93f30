/-
# Responder.Proofs.Action.Masked -- what is left of actions when their tokens are masked

A mask takes the place of the token in an action, in the request it sends and in the
log of a scripted host.  Masking first and carrying out then is the same as carrying
out first and masking then (`execute_masked`): no outcome, no context and no other
part of a request looks at the token.
-/
import Responder.Action.Execute
import Responder.Host.Script
import Responder.Proofs.Action.Effect

namespace Responder

set_option autoImplicit false

/-! ## Masks -/

/-- What stands for a token that is not shown. -/
def tokenMask : String := "***"

namespace Host

/-- A request with its token masked; whether there is one is still seen. -/
def Request.masked (r : Request) : Request := { r with token := r.token.map fun _ => tokenMask }

/-- An entry of the log with its token masked. -/
def Logged.masked : Logged → Logged
  | .posted request => .posted request.masked
  | .started command reads => .started command reads

/-- A script with the tokens in its log masked. -/
def Script.masked (w : Script) : Script := { w with log := w.log.map Logged.masked }

end Host

namespace Action

open Responder.Host (Script Command Fault Request Response)

/-- An issue with its token masked. -/
def Issue.masked (issue : Issue) : Issue := { issue with token := tokenMask }

end Action

/-- An action with its token masked. -/
def Action.masked : Action → Action
  | .slack notice => .slack notice
  | .jira issue => .jira issue.masked
  | .exec program => .exec program

namespace Action

open Responder.Host (Script Command Fault ExitStatus Request Response)

/-- An effect with its token masked. -/
def Effect.masked : Effect → Effect
  | .request kind sent => .request kind sent.masked
  | .command started => .command started

/-- A situation on a scripted host with the tokens in the log masked. -/
def Situation.masked (s : Situation Script) : Situation Script := ⟨s.context, s.world.masked⟩

/-- What was done, with the tokens in the log masked. -/
def maskedEnd {α : Type} (ended : α × Situation Script) : α × Situation Script :=
  (ended.1, ended.2.masked)

@[simp] theorem kind_masked (action : Action) : action.masked.kind = action.kind := by
  cases action <;> rfl

/-- The token is not described. -/
@[simp] theorem describe_masked (action : Action) : action.masked.describe = action.describe := by
  cases action <;> rfl

/-! ## Effects -/

/-- Only new issues show a token. -/
theorem token_of_effect {action : Action} {event : Event} {kind : Kind} {request : Request}
    (asked : action.effect event = .ok (.request kind request)) : request.token.isSome = (kind == .jira) := by
  cases effect_eq_ok_iff.1 asked <;> rfl

theorem effect_masked (action : Action) (event : Event) :
    action.masked.effect event = (action.effect event).map Effect.masked := by
  cases action with
  | slack notice =>
      simp only [masked, effect]
      cases notice.message.render event <;> rfl
  | jira issue =>
      simp only [masked, Issue.masked, effect]
      cases issue.summary.render event with
      | error e => rfl
      | ok summary => cases issue.description.render event <;> rfl
  | exec program =>
      simp only [masked, effect]
      cases program.args.mapM fun t => t.render event <;> rfl

/-! ## Executions -/

section

variable (find : Command → Except Fault Unit)

theorem await_masked {α : Type} (s : Situation Script) (work : Work (Except Error α)) :
    s.masked.await work = maskedEnd (s.await work) := rfl

theorem andThen_masked {α β : Type} {x : Outcome Error α × Situation Script}
    {f : α → Situation Script → Outcome Error β × Situation Script}
    (later : ∀ a s, f a s.masked = maskedEnd (f a s)) :
    Outcome.andThen (maskedEnd x) f = maskedEnd (Outcome.andThen x f) := by
  obtain ⟨outcome, s⟩ := x
  cases outcome with
  | ok a => exact later a s
  | error e => rfl
  | endless => rfl

theorem settle_masked (kind : Kind) (response : Response) (s : Situation Script) :
    settle kind response s.masked = maskedEnd (settle kind response s) := by
  unfold settle
  by_cases good : response.status < 300
  · simp only [if_pos good]
    rfl
  · simp only [if_neg good, await_masked]
    exact andThen_masked fun _ _ => rfl

/-- A request goes the same way whatever token it shows. -/
theorem post_masked (kind : Kind) (request : Request) (s : Situation Script) :
    post (Script.services find) kind request.masked s.masked =
      maskedEnd (post (Script.services find) kind request s) := by
  have logged : (Script.post request.masked s.world.masked).2 = (Script.post request s.world).2.masked := by
    simp only [Script.post, Script.masked, List.map_append]
    rfl
  by_cases cancelled : s.context.cancelled
  · have same : s.masked.context.cancelled = true := cancelled
    rw [post, post, if_pos cancelled, if_pos same]
    rfl
  · have same : ¬ s.masked.context.cancelled = true := cancelled
    rw [post, post, if_neg cancelled, if_neg same]
    dsimp only
    rw [← andThen_masked (settle_masked kind), ← await_masked]
    exact congrArg (fun world => Outcome.andThen (Situation.await ⟨s.context, world⟩ _) _) logged

theorem conclude_masked (command : Command) (x : Outcome Error ExitStatus × Situation Script) :
    conclude (Script.services find) command (maskedEnd x) =
      maskedEnd (conclude (Script.services find) command x) := by
  obtain ⟨outcome, s⟩ := x
  cases outcome <;> rfl

theorem script_start_masked (command : Command) (w : Script) :
    Script.start command w.masked = ((Script.start command w).1, (Script.start command w).2.masked) := by
  have same : w.masked.nextEnding = w.nextEnding := rfl
  rw [Script.start, Script.start, same]
  cases w.nextEnding with
  | unstarted fault => rfl
  | started reads fed waited =>
      simp only [Script.masked, List.map_append]
      rfl

theorem start_masked (command : Command) (s : Situation Script) :
    start (Script.services find) command s.masked = maskedEnd (start (Script.services find) command s) := by
  simp only [start, Script.services]
  cases find command with
  | error fault => rfl
  | ok =>
      have begun : Script.start command s.masked.world = _ := script_start_masked command s.world
      simp only [begun]
      rcases Script.start command s.world with ⟨started, world⟩
      cases started with
      | error fault => rfl
      | ok child => exact conclude_masked find command (Situation.await ⟨s.context, world⟩ _)

/-- **An execution goes the same way whatever token its action holds.** -/
theorem execute_masked (action : Action) (event : Event) (s : Situation Script) :
    execute (Script.services find) action.masked event s.masked =
      maskedEnd (execute (Script.services find) action event s) := by
  rw [execute, execute, effect_masked]
  cases action.effect event with
  | error e => rfl
  | ok effect =>
      cases effect with
      | request kind request => exact post_masked find kind request s
      | command command => exact start_masked find command s

end

end Action

end Responder
