/-
# Responder.Proofs.Action.Settled -- how an action can come out on a scripted host

`Succeeds` and `Fails` tell, apart from the code that carries actions out, how an
action for an event can come out against a script: under which reply or ending, for
which cause, and with which script afterwards.  Under a context that lets work begin
one of them happens (`execute_settled`), as long as a deadline cuts off whatever
hangs, and never both (`Succeeds.not_fails`).  Each leaves at most one entry in the
log, which shows what the action asks for the event.
-/
import Responder.Proofs.Action.Effect
import Responder.Proofs.Action.Scripted

namespace Responder.Action

set_option autoImplicit false

open Responder.Host (Script Course Answer Reply Ending Fed Command Request Fault ExitStatus Logged)

section Outcomes

variable (find : Command → Except Fault Unit) (action : Action) (event : Event) (w : Script)

/-- The effect of an action goes well; it may cancel the context, and leaves this script.  A request
gets a response with a status below 300; a program is found and started, has its input or does not
want it, and exits with success. -/
inductive Succeeds : Bool → Script → Prop where
  | request {kind : Kind} {request : Request} {answer : Answer} {cancels : Bool}
      (asks : action.Asks event (.request kind request))
      (reply : w.nextReply = .comes (some answer) cancels) (good : answer.status < 300) :
      Succeeds cancels (answered request w)
  | command {command : Command} {reads early late : Bool} {fed : Except Fault Unit} {status : ExitStatus}
      (asks : action.Asks event (.command command)) (found : find command = .ok ())
      (ending : w.nextEnding = .started reads (.comes fed early) (.comes (.ok status) late))
      (taken : Fed fed) (good : status.success) : Succeeds (early || late) (launched command reads w)

/-- An action fails, for this cause, and leaves this script. -/
inductive Fails : Error → Script → Prop where
  | unfit {error : Template.Error} (unfit : action.Unfit event error) : Fails (.render error) w
  | badStatus {kind : Kind} {request : Request} {answer : Answer} {body : Option (List UInt8)}
      {cancels : Bool} (asks : action.Asks event (.request kind request))
      (reply : w.nextReply = .comes (some answer) false) (bad : 300 ≤ answer.status)
      (sent : answer.sent = .comes body cancels) :
      Fails (.status kind answer.status (bodyText body)) (answered request w)
  | dropped {kind : Kind} {request : Request} {cancels : Bool}
      (asks : action.Asks event (.request kind request)) (reply : w.nextReply = .comes none cancels) :
      Fails (.http kind request.url.withoutUser.text) (answered request w)
  | requestCut {kind : Kind} {request : Request} {cause : Error}
      (asks : action.Asks event (.request kind request)) (cut : CutReply w.nextReply cause) :
      Fails cause (answered request w)
  | unfound {command : Command} {fault : Fault} (asks : action.Asks event (.command command))
      (found : find command = .error fault) : Fails (.spawn command.path fault) w
  | unstarted {command : Command} {fault : Fault} (asks : action.Asks event (.command command))
      (found : find command = .ok ()) (ending : w.nextEnding = .unstarted fault) :
      Fails (.spawn command.path fault) (denied w)
  | unfed {command : Command} {reads early : Bool} {fault : Fault} {waited : Course (Except Fault ExitStatus)}
      (asks : action.Asks event (.command command)) (found : find command = .ok ())
      (ending : w.nextEnding = .started reads (.comes (.error fault) early) waited)
      (unfed : ¬Fed (.error fault)) :
      Fails (.stdin command.path fault) ((launched command reads w).kill command)
  | unwaited {command : Command} {reads early late : Bool} {fed : Except Fault Unit} {fault : Fault}
      (asks : action.Asks event (.command command)) (found : find command = .ok ())
      (ending : w.nextEnding = .started reads (.comes fed early) (.comes (.error fault) late))
      (taken : Fed fed) : Fails (.wait command.path fault) ((launched command reads w).kill command)
  | exited {command : Command} {reads early late : Bool} {fed : Except Fault Unit} {status : ExitStatus}
      (asks : action.Asks event (.command command)) (found : find command = .ok ())
      (ending : w.nextEnding = .started reads (.comes fed early) (.comes (.ok status) late))
      (taken : Fed fed) (bad : ¬status.success) :
      Fails (.exit command.path status) (launched command reads w)
  | commandCut {command : Command} {reads : Bool} {feeding : Course (Except Fault Unit)}
      {waited : Course (Except Fault ExitStatus)} {cause : Error}
      (asks : action.Asks event (.command command)) (found : find command = .ok ())
      (ending : w.nextEnding = .started reads feeding waited)
      (cut : CutEnding (.started reads feeding waited) cause) :
      Fails cause ((launched command reads w).kill command)

/-- An entry of the log shows the effect that an action has for an event. -/
inductive Shows : Logged → Prop where
  | posted {kind : Kind} {request : Request}
      (asks : action.Asks event (.request kind request)) : Shows (.posted request)
  | started {command : Command} {reads : Bool} (asks : action.Asks event (.command command)) :
      Shows (.started command reads)

end Outcomes

/-- Whatever hangs in a script is cut off by a deadline. -/
def CutOff (s : Situation Script) : Prop :=
  s.context.deadline = none →
    (∀ reply ∈ s.world.replies, ¬reply.Hangs) ∧ ∀ ending ∈ s.world.endings, ¬ending.Hangs

variable {find : Command → Except Fault Unit} {action : Action} {event : Event} {s : Situation Script}
  {c : Context} {u v w : Script} {cancels : Bool} {cause : Error}

/-! ## What cuts off a wait -/

theorem forall_headD {α : Type} {P : α → Prop} {xs : List α} {otherwise : α} (all : ∀ x ∈ xs, P x)
    (last : P otherwise) : P (xs.headD otherwise) := by
  cases xs with
  | nil => exact last
  | cons x xs => exact all x List.mem_cons_self

theorem CutOff.reply (cut : CutOff s) (hangs : s.world.nextReply.Hangs) : s.context.deadline ≠ none :=
  fun unlimited => forall_headD (cut unlimited).1 Reply.not_hangs_default hangs

theorem CutOff.ending (cut : CutOff s) (hangs : s.world.nextEnding.Hangs) : s.context.deadline ≠ none :=
  fun unlimited => forall_headD (cut unlimited).2 Ending.not_hangs_default hangs

/-! ## What is left of a script -/

theorem Succeeds.cutOff (succeeds : Succeeds find action event w cancels v) (cut : CutOff ⟨c, w⟩) :
    CutOff ⟨c.cancelIf cancels, v⟩ := by
  intro unlimited
  obtain ⟨replies, endings⟩ := cut unlimited
  cases succeeds with
  | request asks reply good =>
      exact ⟨fun reply member => replies reply (List.mem_of_mem_tail member), endings⟩
  | command asks found ending taken good =>
      exact ⟨replies, fun ending member => endings ending (List.mem_of_mem_tail member)⟩

theorem Succeeds.log (succeeds : Succeeds find action event w cancels v) :
    ∃ entry, v.log = w.log ++ [entry] ∧ Shows action event entry := by
  cases succeeds with
  | request asks reply good => exact ⟨_, rfl, .posted asks⟩
  | command asks found ending taken good => exact ⟨_, rfl, .started asks⟩

/-- A failure leaves at most one entry, which shows what was asked. -/
theorem Fails.log (fails : Fails find action event w cause v) :
    v.log = w.log ∨ ∃ entry, v.log = w.log ++ [entry] ∧ Shows action event entry := by
  cases fails with
  | unfit | unfound | unstarted => exact .inl rfl
  | badStatus asks | dropped asks | requestCut asks => exact .inr ⟨_, rfl, .posted asks⟩
  | unfed asks | unwaited asks | exited asks | commandCut asks => exact .inr ⟨_, rfl, .started asks⟩

theorem asks_unique {effect effect' : Effect} (asks : action.Asks event effect)
    (asks' : action.Asks event effect') : effect = effect' :=
  Except.ok.inj ((effect_eq_ok_iff.2 asks).symm.trans (effect_eq_ok_iff.2 asks'))

theorem not_unfit_of_asks {effect : Effect} {error : Template.Error} (asks : action.Asks event effect) :
    ¬action.Unfit event error := by
  intro unfit
  have asked := effect_eq_ok_iff.2 asks
  rw [effect_eq_error_iff.2 unfit] at asked
  cases asked

/-- A response with a good status is not waited for any further. -/
theorem not_cutReply_of_good {answer : Answer} (good : answer.status < 300) :
    ¬CutReply (.comes (some answer) cancels) cause := by
  rintro (_ | bad | bad | ⟨_ | bad⟩) <;> omega

/-- The end of a program that has come is not waited for any further. -/
theorem not_cutEnding_of_ended {reads early late : Bool} {fed : Except Fault Unit}
    {ended : Except Fault ExitStatus} :
    ¬CutEnding (.started reads (.comes fed early) (.comes ended late)) cause := by
  rintro (_ | _ | _ | ⟨_ | _⟩)

/-- What succeeds against a script does not fail against it: the first turn to fail is the only one
at which a run can stop. -/
theorem Succeeds.not_fails (succeeds : Succeeds find action event w cancels v) :
    ¬Fails find action event w cause u := by
  intro fails
  cases succeeds with
  | request asks reply good =>
      cases fails with
      | unfit unfit => exact not_unfit_of_asks asks unfit
      | badStatus _ reply' bad =>
          rw [reply] at reply'
          cases reply'
          omega
      | dropped _ reply' =>
          rw [reply] at reply'
          cases reply'
      | requestCut _ cut =>
          rw [reply] at cut
          exact not_cutReply_of_good good cut
      | unfound asks' | unstarted asks' | unfed asks' | unwaited asks' | exited asks' | commandCut asks' =>
          cases asks_unique asks asks'
  | command asks found ending taken good =>
      cases fails with
      | unfit unfit => exact not_unfit_of_asks asks unfit
      | badStatus asks' | dropped asks' | requestCut asks' => cases asks_unique asks asks'
      | unfound asks' found' =>
          cases asks_unique asks asks'
          rw [found] at found'
          cases found'
      | unstarted _ _ ending' | unwaited _ _ ending' =>
          rw [ending] at ending'
          cases ending'
      | unfed _ _ ending' unfed =>
          rw [ending] at ending'
          cases ending'
          exact unfed taken
      | exited _ _ ending' _ bad =>
          rw [ending] at ending'
          cases ending'
          exact bad good
      | commandCut _ _ ending' cut =>
          rw [ending] at ending'
          cases ending'
          exact not_cutEnding_of_ended cut

/-! ## Executions on a scripted host -/

/-- What comes of an execution: it succeeds, or it fails for a cause. -/
def Settled (find : Command → Except Fault Unit) (action : Action) (event : Event) (s : Situation Script)
    (ended : Outcome Error Unit × Situation Script) : Prop :=
  (∃ cancels v, Succeeds find action event s.world cancels v ∧
      ended = (.ok (), ⟨s.context.cancelIf cancels, v⟩)) ∨
    ∃ cause after, Fails find action event s.world cause after.world ∧ ended = (.error cause, after)

theorem post_settled {kind : Kind} {request : Request}
    (asks : action.Asks event (.request kind request)) (ready : s.context.check = .ok ()) (cut : CutOff s) :
    Settled find action event s (post (Script.services find) kind request s) := by
  obtain ⟨c, w⟩ := s
  have cutShort {next : Reply} {cause : Error} (reply : w.nextReply = next)
      (short : CutReply next cause) :
      Settled find action event ⟨c, w⟩ (post (Script.services find) kind request ⟨c, w⟩) := by
    subst reply
    obtain ⟨c', posted⟩ := post_cut ready short cut.reply
    exact .inr ⟨_, _, .requestCut asks short, posted⟩
  match reply : w.nextReply with
  | .comes (some answer) cancels =>
      by_cases good : answer.status < 300
      · exact .inl ⟨_, _, .request asks reply good, post_success ready reply good⟩
      · have bad := Nat.not_lt.1 good
        cases cancels with
        | true => exact cutShort reply (.beforeBody bad)
        | false =>
            cases sent : answer.sent with
            | comes body cancels =>
                exact .inr ⟨_, _, .badStatus asks reply bad sent, post_failure ready reply bad sent⟩
            | cancelled => exact cutShort reply (.bodyCancelled bad sent)
            | hanging => exact cutShort reply (.late (.body bad sent))
  | .comes none cancels => exact .inr ⟨_, _, .dropped asks reply, post_dropped ready reply⟩
  | .cancelled => exact cutShort reply .cancelled
  | .hanging => exact cutShort reply (.late .head)

theorem start_settled {command : Command} (asks : action.Asks event (.command command))
    (ready : s.context.check = .ok ()) (cut : CutOff s) :
    Settled find action event s (start (Script.services find) command s) := by
  obtain ⟨c, w⟩ := s
  cases found : find command with
  | error fault => exact .inr ⟨_, _, .unfound asks found, start_unfound found⟩
  | ok =>
      cases ending : w.nextEnding with
      | unstarted fault =>
          exact .inr ⟨_, _, .unstarted asks found ending, start_unstarted found ending⟩
      | started reads feeding waited =>
          have cutShort {cause : Error} (short : CutEnding (.started reads feeding waited) cause) :
              Settled find action event ⟨c, w⟩ (start (Script.services find) command ⟨c, w⟩) := by
            obtain ⟨c', started⟩ := start_cut ready found ending short cut.ending
            exact .inr ⟨_, _, .commandCut asks found ending short, started⟩
          match feeding, waited with
          | .cancelled, _ => exact cutShort .feedingCancelled
          | .hanging, _ => exact cutShort (.late .feeding)
          | .comes fed early, waited =>
              by_cases taken : Fed fed
              · match waited with
                | .comes (.ok status) late =>
                    have ended := start_ended ready found taken ending
                    by_cases good : status.success
                    · rw [if_pos good] at ended
                      exact .inl ⟨_, _, .command asks found ending taken good, ended⟩
                    · rw [if_neg good] at ended
                      exact .inr ⟨_, _, .exited asks found ending taken good, ended⟩
                | .comes (.error fault) late =>
                    exact .inr ⟨_, _, .unwaited asks found ending taken,
                      start_unwaited ready found taken ending⟩
                | .cancelled => exact cutShort (.waitingCancelled taken)
                | .hanging =>
                    cases early with
                    | true => exact cutShort (.beforeWaiting taken)
                    | false => exact cutShort (.late (.waiting taken))
              · match fed with
                | .ok () => exact absurd .written taken
                | .error fault =>
                    exact .inr ⟨_, _, .unfed asks found ending taken,
                      start_unfed ready found taken ending⟩

/-- What an action has to do for an event, under a context that lets it begin, succeeds or fails. -/
theorem execute_settled (find : Command → Except Fault Unit) (action : Action) (event : Event)
    (ready : s.context.check = .ok ()) (cut : CutOff s) :
    Settled find action event s (action.execute (Script.services find) event s) := by
  cases asked : action.effect event with
  | error error =>
      rw [execute, asked]
      exact .inr ⟨_, _, .unfit (effect_eq_error_iff.1 asked), rfl⟩
  | ok effect =>
      rw [execute, asked]
      have asks := effect_eq_ok_iff.1 asked
      cases effect with
      | request kind request => exact post_settled asks ready cut
      | command command => exact start_settled asks ready cut

end Responder.Action
