/-
# Responder.Proofs.Action.Scripted -- effects on a host that follows a script

One lemma for each way in which a request or a program can turn out, under a
context that lets work begin: the outcome, the context after it, and the script
after it, which has used up one reply or ending and logged what was asked.
Waiting can be cut short at several places, which `CutReply` and `CutEnding`
list; a program that is not waited for to its end is killed.
-/
import Responder.Action.Execute
import Responder.Host.Script
import Responder.Proofs.Action.Looking

namespace Responder

set_option autoImplicit false

namespace Host

/-- A request stays without a response, or a response that tells a failure without its whole body. -/
inductive Reply.Hangs : Reply → Prop where
  | head : Hangs .hanging
  | body {answer : Answer} (bad : 300 ≤ answer.status) (sent : answer.sent = .hanging) :
      Hangs (.comes (some answer) false)

/-- A program has its input, or does not want it. -/
inductive Fed : Except Fault Unit → Prop where
  | written : Fed (.ok ())
  | unread : Fed (.error .brokenPipe)

/-- A program never takes all of its input, or never ends. -/
inductive Ending.Hangs : Ending → Prop where
  | feeding {reads : Bool} {waited : Course (Except Fault ExitStatus)} :
      Hangs (.started reads .hanging waited)
  | waiting {reads : Bool} {fed : Except Fault Unit} (taken : Fed fed) :
      Hangs (.started reads (.comes fed false) .hanging)

theorem Reply.not_hangs_default : ¬ Reply.default.Hangs := by
  rintro (_ | ⟨-, sent⟩)
  cases sent

theorem Ending.not_hangs_default : ¬ Ending.default.Hangs := by
  rintro (_ | _)

end Host

namespace Action

open Responder.Host (Script Course Answer Reply Ending Fed Command Request Fault ExitStatus)

/-- A script after a request: one reply is used up. -/
def answered (request : Request) (w : Script) : Script :=
  { w with replies := w.replies.tail, log := w.log ++ [.posted request] }

/-- A script after a program could not be started: one ending is used up. -/
def denied (w : Script) : Script := { w with endings := w.endings.tail }

/-- A script after the start of a program: one ending is used up. -/
def launched (command : Command) (reads : Bool) (w : Script) : Script :=
  { w with endings := w.endings.tail, log := w.log ++ [.started command reads] }

/-- Waiting for a response is cut short, or for the body of one that tells a failure. -/
inductive CutReply : Reply → Error → Prop where
  | cancelled : CutReply .cancelled .cancelled
  | beforeBody {answer : Answer} (bad : 300 ≤ answer.status) :
      CutReply (.comes (some answer) true) .cancelled
  | bodyCancelled {answer : Answer} (bad : 300 ≤ answer.status) (sent : answer.sent = .cancelled) :
      CutReply (.comes (some answer) false) .cancelled
  | late {reply : Reply} (hangs : reply.Hangs) : CutReply reply .deadlineExceeded

/-- Feeding a program is cut short, or waiting for its end. -/
inductive CutEnding : Ending → Error → Prop where
  | feedingCancelled {reads : Bool} {waited : Course (Except Fault ExitStatus)} :
      CutEnding (.started reads .cancelled waited) .cancelled
  | waitingCancelled {reads early : Bool} {fed : Except Fault Unit} (taken : Fed fed) :
      CutEnding (.started reads (.comes fed early) .cancelled) .cancelled
  | beforeWaiting {reads : Bool} {fed : Except Fault Unit} (taken : Fed fed) :
      CutEnding (.started reads (.comes fed true) .hanging) .cancelled
  | late {ending : Ending} (hangs : ending.Hangs) : CutEnding ending .deadlineExceeded

theorem check_eq_ok_iff {c : Context} :
    c.check = .ok () ↔ c.cancelled = false ∧ c.deadline ≠ some .passed := by
  rw [Context.check]
  cases cancelled : c.cancelled with
  | true => simp
  | false => by_cases late : c.deadline = some .passed <;> simp [late]

/-! ## Waiting under a context that lets work begin -/

section Waiting

variable {α : Type} {c : Context} {w : Script} (ready : c.check = .ok ())
include ready

theorem await_ready (cancels : Bool) (result : Except Error α) :
    Situation.await ⟨c, w⟩ (.ready cancels result) = (.ofExcept result, ⟨c.cancelIf cancels, w⟩) := by
  obtain ⟨running, -⟩ := check_eq_ok_iff.1 ready
  simp [Situation.await, Context.run, running]

theorem await_cancelling : Situation.await ⟨c, w⟩ (.pending true .idle : Work (Except Error α)) =
    (.error .cancelled, ⟨c.cancel, w⟩) := by
  obtain ⟨running, early⟩ := check_eq_ok_iff.1 ready
  simp [Situation.await, Context.run, running, early, Context.cancelIf, Context.cancel]

/-- What does not come is cut off by a deadline, if there is one. -/
theorem await_idle (limited : c.deadline ≠ none) :
    Situation.await ⟨c, w⟩ (.idle : Work (Except Error α)) =
      (.error .deadlineExceeded, ⟨{ c with deadline := some .passed }, w⟩) := by
  obtain ⟨running, -⟩ := check_eq_ok_iff.1 ready
  obtain ⟨deadline, limit⟩ := Option.ne_none_iff_exists'.1 limited
  simp [Situation.await, Context.run, running, limit]

end Waiting

/-- Under a cancelled context nothing is looked at. -/
theorem await_of_cancelled {α : Type} {s : Situation Script} (cancelled : s.context.cancelled)
    (work : Work (Except Error α)) : s.await work = (.error .cancelled, s) := by
  rw [Situation.await, run_work_of_cancelled cancelled]

variable {find : Command → Except Fault Unit} {kind : Kind} {request : Request} {command : Command}
  {c : Context} {w : Script} {answer : Answer} {cancels : Bool} {cause : Error}

/-! ## Requests -/

section Request

variable (ready : c.check = .ok ())
include ready

/-- A request uses up the next reply, and then waits for it. -/
theorem post_eq : post (Script.services find) kind request ⟨c, w⟩ =
    Outcome.andThen
      (Situation.await ⟨c, answered request w⟩ (w.nextReply.work.map fun
        | some response => .ok response
        | none => .error (.http kind request.url.withoutUser.text)))
      (settle kind) := by
  obtain ⟨running, -⟩ := check_eq_ok_iff.1 ready
  rw [post, if_neg (by simp [running])]
  rfl

/-- With the head of a response, it is settled what comes of a request. -/
theorem post_answered (reply : w.nextReply = .comes (some answer) cancels) :
    post (Script.services find) kind request ⟨c, w⟩ =
      settle kind ⟨answer.status, answer.sent.work⟩ ⟨c.cancelIf cancels, answered request w⟩ := by
  rw [post_eq ready, reply]
  simp only [Reply.work, Course.work, Work.map, Option.map_some, await_ready ready]
  rfl

theorem post_success (reply : w.nextReply = .comes (some answer) cancels) (good : answer.status < 300) :
    post (Script.services find) kind request ⟨c, w⟩ =
      (.ok (), ⟨c.cancelIf cancels, answered request w⟩) := by
  rw [post_answered ready reply, settle, if_pos good]

theorem post_failure {body : Option (List UInt8)} (reply : w.nextReply = .comes (some answer) false)
    (bad : 300 ≤ answer.status) (sent : answer.sent = .comes body cancels) :
    post (Script.services find) kind request ⟨c, w⟩ =
      (.error (.status kind answer.status (bodyText body)), ⟨c.cancelIf cancels, answered request w⟩) := by
  rw [post_answered ready reply, cancelIf_false, settle, if_neg (Nat.not_lt.2 bad), sent]
  simp only [Course.work, Work.map, await_ready ready]
  rfl

theorem post_dropped (reply : w.nextReply = .comes none cancels) :
    post (Script.services find) kind request ⟨c, w⟩ =
      (.error (.http kind request.url.withoutUser.text), ⟨c.cancelIf cancels, answered request w⟩) := by
  rw [post_eq ready, reply]
  simp only [Reply.work, Course.work, Work.map, Option.map_none, await_ready ready]
  rfl

theorem post_cut (cut : CutReply w.nextReply cause) (limited : w.nextReply.Hangs → c.deadline ≠ none) :
    ∃ c', post (Script.services find) kind request ⟨c, w⟩ = (.error cause, ⟨c', answered request w⟩) := by
  generalize reply : w.nextReply = next at cut limited
  cases cut with
  | cancelled =>
      rw [post_eq ready, reply]
      simp only [Reply.work, Course.work, Work.map, await_cancelling ready]
      exact ⟨_, rfl⟩
  | beforeBody bad =>
      have cancelled : (c.cancelIf true).cancelled = true := Bool.or_true _
      rw [post_answered ready reply, settle, if_neg (Nat.not_lt.2 bad), await_of_cancelled cancelled]
      exact ⟨_, rfl⟩
  | bodyCancelled bad sent =>
      rw [post_answered ready reply, cancelIf_false, settle, if_neg (Nat.not_lt.2 bad), sent]
      simp only [Course.work, Work.map, await_cancelling ready]
      exact ⟨_, rfl⟩
  | late hangs =>
      have deadline := limited hangs
      cases hangs with
      | head =>
          rw [post_eq ready, reply]
          simp only [Reply.work, Course.work, Work.map, await_idle ready deadline]
          exact ⟨_, rfl⟩
      | body bad sent =>
          rw [post_answered ready reply, cancelIf_false, settle, if_neg (Nat.not_lt.2 bad), sent]
          simp only [Course.work, Work.map, await_idle ready deadline]
          exact ⟨_, rfl⟩

end Request

/-! ## Programs -/

section Feeding

variable {path : String} {fed : Except Fault Unit} {waiting : Work (Except Fault ExitStatus)}

theorem feedAndWait_fed (taken : Fed fed) : feedAndWait path ⟨.ready cancels fed, waiting⟩ =
    (waiting.map fun ended => ended.mapError (.wait path)).cancelIf cancels := by
  cases taken <;> rfl

theorem feedAndWait_unfed {fault : Fault} (unfed : ¬ Fed (.error fault)) :
    feedAndWait path ⟨.ready cancels (.error fault), waiting⟩ =
      .ready cancels (.error (.stdin path fault)) := by
  cases fault with
  | brokenPipe => exact absurd .unread unfed
  | _ => simp [feedAndWait, Work.bind, Work.cancelIf]

end Feeding

section Command

theorem start_unfound {fault : Fault} (found : find command = .error fault) :
    start (Script.services find) command ⟨c, w⟩ = (.error (.spawn command.path fault), ⟨c, w⟩) := by
  simp only [start, Script.services, found]

theorem start_unstarted {fault : Fault} (found : find command = .ok ())
    (ending : w.nextEnding = .unstarted fault) :
    start (Script.services find) command ⟨c, w⟩ = (.error (.spawn command.path fault), ⟨c, denied w⟩) := by
  simp only [start, Script.services, found, Script.start, ending]
  rfl

variable {reads early late : Bool} {fed : Except Fault Unit} {feeding : Course (Except Fault Unit)}
  {waited : Course (Except Fault ExitStatus)} {status : ExitStatus} {fault : Fault}
  (ready : c.check = .ok ()) (found : find command = .ok ())

/-- A program that is found uses up the next ending, and then is waited for. -/
theorem start_eq (found : find command = .ok ()) (ending : w.nextEnding = .started reads feeding waited) :
    start (Script.services find) command ⟨c, w⟩ = conclude (Script.services find) command
      (Situation.await ⟨c, launched command reads w⟩
        (feedAndWait command.path ⟨feeding.work, waited.work⟩)) := by
  simp only [start, Script.services, found, Script.start, ending]
  rfl

include ready found

theorem start_ended (taken : Fed fed)
    (ending : w.nextEnding = .started reads (.comes fed early) (.comes (.ok status) late)) :
    start (Script.services find) command ⟨c, w⟩ =
      (if status.success then .ok () else .error (.exit command.path status),
        ⟨c.cancelIf (early || late), launched command reads w⟩) := by
  rw [start_eq found ending, Course.work, feedAndWait_fed taken, Course.work, Work.map, Work.cancelIf,
    await_ready ready]
  rfl

theorem start_unwaited (taken : Fed fed)
    (ending : w.nextEnding = .started reads (.comes fed early) (.comes (.error fault) late)) :
    start (Script.services find) command ⟨c, w⟩ = (.error (.wait command.path fault),
      ⟨c.cancelIf (early || late), (launched command reads w).kill command⟩) := by
  rw [start_eq found ending, Course.work, feedAndWait_fed taken, Course.work, Work.map, Work.cancelIf,
    await_ready ready]
  rfl

theorem start_unfed (unfed : ¬ Fed (.error fault))
    (ending : w.nextEnding = .started reads (.comes (.error fault) early) waited) :
    start (Script.services find) command ⟨c, w⟩ = (.error (.stdin command.path fault),
      ⟨c.cancelIf early, (launched command reads w).kill command⟩) := by
  rw [start_eq found ending, Course.work, feedAndWait_unfed unfed, await_ready ready]
  rfl

theorem start_cut (ending : w.nextEnding = .started reads feeding waited)
    (cut : CutEnding (.started reads feeding waited) cause)
    (limited : w.nextEnding.Hangs → c.deadline ≠ none) :
    ∃ c', start (Script.services find) command ⟨c, w⟩ =
      (.error cause, ⟨c', (launched command reads w).kill command⟩) := by
  rw [ending] at limited
  rw [start_eq found ending]
  cases cut with
  | feedingCancelled =>
      rw [feedAndWait, Course.work, Work.bind, Work.bind, await_cancelling ready]
      exact ⟨_, rfl⟩
  | waitingCancelled taken =>
      rw [Course.work, feedAndWait_fed taken, Course.work, Work.map, Work.map, Work.cancelIf, Bool.or_true,
        await_cancelling ready]
      exact ⟨_, rfl⟩
  | beforeWaiting taken =>
      rw [Course.work, feedAndWait_fed taken, Course.work, Work.map, Work.cancelIf, if_pos rfl,
        await_cancelling ready]
      exact ⟨_, rfl⟩
  | late hangs =>
      have deadline := limited hangs
      cases hangs with
      | feeding =>
          rw [feedAndWait, Course.work, Work.bind, await_idle ready deadline]
          exact ⟨_, rfl⟩
      | waiting taken =>
          rw [Course.work, feedAndWait_fed taken, Course.work, Work.map, Work.cancelIf,
            if_neg Bool.false_ne_true, await_idle ready deadline]
          exact ⟨_, rfl⟩

end Command

end Action

end Responder
