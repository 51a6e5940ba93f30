/-
# Responder.Proofs.Runbook.Trace -- what a run leaves in the log of a scripted host

The turns of a run are the pairs of its steps and events, step by step and event
by event.  `Passes` chains turns that go well, each of which takes up the script and
the context where the one before has left them; a run stops at an admitted turn that
fails, or behind an effect that has cancelled the context (`Stops`).  The log of a
run holds one entry for each admitted turn that it has passed, and one for the turn
at which it stops if that had an effect at all (`run_leaves_trace`).
-/
import Responder.Proofs.Action.Settled
import Responder.Proofs.Dispatch.Walk
import Responder.Runbook.Basic

namespace Responder.Runbook

set_option autoImplicit false

open Responder.Action (Situation Outcome Succeeds Fails Shows CutOff execute_settled)
open Responder.Host (Script Reply Ending Command Fault)
open Responder.Dispatch (Pair Passed)

/-! ## Turns -/

/-- A step and an event, with the places of both. -/
structure Turn where
  index : Nat
  step : Step
  place : Nat
  event : Event

/-- The turns of a run, step by step and for each step event by event. -/
def turns (steps : List Step) (events : List Event) : List Turn :=
  steps.zipIdx.flatMap fun (step, i) => events.zipIdx.map fun (event, j) => ⟨i, step, j, event⟩

namespace Turn

/-- Whether the step is for the event. -/
def admitted (t : Turn) : Bool := t.step.admits t.event

/-- The failure of a turn. -/
def failure (t : Turn) (cause : Action.Error) : Error :=
  .dispatch ⟨t.index, t.step.action.kind, t.place, cause⟩

/-- A turn as a pair to be dispatched. -/
def pair (find : Command → Except Fault Unit) (t : Turn) : Pair Script :=
  ⟨t.index, t.step.executable (Script.services find), t.place, t.event⟩

end Turn

/-! ## How turns can come out -/

/-- Turns are passed, from a situation to a situation: none begins once the context is cancelled, and
those not admitted leave everything as it is. -/
inductive Passes (find : Command → Except Fault Unit) :
    List Turn → Situation Script → Situation Script → Prop where
  | nil (s : Situation Script) : Passes find [] s s
  | left {t : Turn} {ts : List Turn} {s s' : Situation Script} (running : s.context.cancelled = false)
      (closed : ¬t.admitted) (later : Passes find ts s s') : Passes find (t :: ts) s s'
  | taken {t : Turn} {ts : List Turn} {s s' : Situation Script} {cancels : Bool} {w : Script}
      (running : s.context.cancelled = false) (admitted : t.admitted)
      (here : Succeeds find t.step.action t.event s.world cancels w)
      (later : Passes find ts ⟨s.context.cancelIf cancels, w⟩ s') : Passes find (t :: ts) s s'

/-- A run stops at a turn, for this cause, and leaves this script: the turn is admitted and fails, or
the effect before it has cancelled the context. -/
inductive Stops (find : Command → Except Fault Unit) (t : Turn) (s : Situation Script) :
    Action.Error → Script → Prop where
  | halted (cancelled : s.context.cancelled) : Stops find t s .cancelled s.world
  | failed {cause : Action.Error} {last : Script} (running : s.context.cancelled = false)
      (admitted : t.admitted) (fails : Fails find t.step.action t.event s.world cause last) :
      Stops find t s cause last

variable {find : Command → Except Fault Unit} {s s' : Situation Script} {cause : Action.Error}
  {t : Turn} {ts : List Turn}

/-! ## What turns leave -/

theorem Passes.deadline (passes : Passes find ts s s') : s'.context.deadline = s.context.deadline := by
  induction passes with
  | nil s => rfl
  | left running closed later ih => exact ih
  | taken running admitted here later ih => exact ih

theorem Passes.cutOff (passes : Passes find ts s s') (cut : CutOff s) : CutOff s' := by
  induction passes with
  | nil s => exact cut
  | left running closed later ih => exact ih cut
  | taken running admitted here later ih => exact ih (here.cutOff cut)

/-- Turns that are passed leave one entry each if they are admitted, in order, and no others. -/
theorem Passes.log (passes : Passes find ts s s') :
    ∃ logged, s'.world.log = s.world.log ++ logged ∧
      List.Forall₂ (fun t entry => Shows t.step.action t.event entry) (ts.filter Turn.admitted)
        logged := by
  induction passes with
  | nil s => exact ⟨[], (List.append_nil _).symm, .nil⟩
  | left running closed later ih =>
      obtain ⟨logged, log, shown⟩ := ih
      exact ⟨logged, log, by rwa [List.filter_cons_of_neg closed]⟩
  | taken running admitted here later ih =>
      obtain ⟨entry, first, shows⟩ := here.log
      obtain ⟨logged, rest, shown⟩ := ih
      refine ⟨entry :: logged, by rw [rest, first, List.append_assoc]; rfl, ?_⟩
      rw [List.filter_cons_of_pos admitted]
      exact .cons shows shown

theorem Stops.log {last : Script} (stops : Stops find t s cause last) :
    last.log = s.world.log ∨
      ∃ entry, last.log = s.world.log ++ [entry] ∧ Shows t.step.action t.event entry := by
  cases stops with
  | halted cancelled => exact .inl rfl
  | failed running admitted fails => exact fails.log

/-! ## Runs -/

theorem pairs_map_executable (find : Command → Except Fault Unit) (steps : List Step)
    (events : List Event) :
    Dispatch.pairs (steps.map (Step.executable (Script.services find))) events =
      (turns steps events).map (Turn.pair find) := by
  simp [Dispatch.pairs, Dispatch.pairsFrom, Dispatch.eventPairs, turns, Turn.pair, List.zipIdx_map,
    List.flatMap_map, List.map_flatMap, Function.comp_def]

theorem run_eq_walk (find : Command → Except Fault Unit) (runbook : Runbook) (events : List Event)
    (s : Situation Script) :
    (Runbook.run (Script.services find) runbook events s).1 =
        (Dispatch.walk ((turns runbook.steps events).map (Turn.pair find)) s).1.mapError .dispatch ∧
      (Runbook.run (Script.services find) runbook events s).2 =
        (Dispatch.walk ((turns runbook.steps events).map (Turn.pair find)) s).2 := by
  rw [← pairs_map_executable, ← Dispatch.run_eq_walk]
  exact ⟨rfl, rfl⟩

theorem counts_map_pair (find : Command → Except Fault Unit) (ts : List Turn) :
    Dispatch.counts (ts.map (Turn.pair find)) =
      ⟨(ts.filter Turn.admitted).length, (ts.filter fun t => !t.admitted).length⟩ := by
  simp only [Dispatch.counts, List.filter_map, List.length_map]
  rfl

/-- Turns at which nothing stops are passed. -/
theorem passes_of_passed (early : s.context.deadline ≠ some .passed) (cut : CutOff s)
    (passed : Passed (ts.map (Turn.pair find)) s) :
    Passes find ts s (Dispatch.reached (ts.map (Turn.pair find)) s) := by
  induction ts generalizing s with
  | nil => exact .nil s
  | cons t ts ih =>
      rw [List.map_cons, Dispatch.passed_cons] at passed
      obtain ⟨goes, later⟩ := passed
      have ready := Pair.check_of_not_stops goes
      obtain ⟨running, -⟩ := Action.check_eq_ok_iff.1 ready
      rw [List.map_cons, Dispatch.reached_cons]
      by_cases admitted : t.admitted
      · have well := Pair.execute_of_not_stops goes admitted
        rcases execute_settled find t.step.action t.event ready cut with
          ⟨cancels, v, succeeds, executed⟩ | ⟨cause, after, -, executed⟩
        · have here : (t.pair find).after s = ⟨s.context.cancelIf cancels, v⟩ := by
            rw [Pair.after]
            exact (if_pos admitted).trans (congrArg Prod.snd executed)
          rw [here] at later ⊢
          exact .taken running admitted succeeds (ih early (succeeds.cutOff cut) later)
        · have failed : ((t.pair find).execute s).1 = .error cause := congrArg Prod.fst executed
          rw [failed] at well
          cases well
      · have here : (t.pair find).after s = s := by
          rw [Pair.after]
          exact if_neg admitted
        rw [here] at later ⊢
        exact .left running admitted (ih early cut later)

/-- Where a walk stops, the run does. -/
theorem stops_of_stops (early : s.context.deadline ≠ some .passed) (cut : CutOff s)
    (stops : (t.pair find).Stops s) :
    ∃ cause last, Stops find t s cause last ∧
      ((t.pair find).turn s).1 = .error ((t.pair find).failure cause) ∧
      ((t.pair find).turn s).2.world = last := by
  cases running : s.context.cancelled with
  | true =>
      have checked : s.context.check = .error .cancelled := by rw [Action.Context.check, if_pos running]
      rw [Pair.turn_of_check_error checked]
      exact ⟨_, _, .halted running, rfl, rfl⟩
  | false =>
      have ready := Action.check_eq_ok_iff.2 ⟨running, early⟩
      obtain ⟨cause, checked⟩ | ⟨admitted, bad⟩ := stops
      · rw [ready] at checked
        cases checked
      · rw [Pair.turn_of_admitted ready admitted]
        rcases execute_settled find t.step.action t.event ready cut with
          ⟨cancels, v, -, executed⟩ | ⟨cause, after, fails, executed⟩
        · exact absurd (congrArg Prod.fst executed) bad
        · have failed : (t.pair find).execute s = (.error cause, after) := executed
          rw [failed]
          exact ⟨_, _, .failed running admitted fails, rfl, rfl⟩

/-- **The log of a run tells its turns.** On a host that follows a script, under a context that lets
work begin and that cuts off whatever hangs, a run passes turns, action by action and event by event,
until the first admitted one that fails, or until the turn behind an effect that has cancelled the
context.  Each admitted turn that is passed leaves one entry, which shows what its action asks for its
event, and a turn that is not admitted leaves none; the turn at which the run stops is reported with
its cause, and leaves an entry only if it had an effect. -/
theorem run_leaves_trace (find : Command → Except Fault Unit) (runbook : Runbook) (events : List Event)
    (s : Situation Script) (ready : s.context.check = .ok ()) (cut : CutOff s) :
    let ran := Runbook.run (Script.services find) runbook events s
    ∃ before rest reached logged,
      turns runbook.steps events = before ++ rest ∧
      Passes find before s reached ∧
      reached.context.deadline = s.context.deadline ∧
      reached.world.log = s.world.log ++ logged ∧
      List.Forall₂ (fun t entry => Shows t.step.action t.event entry) (before.filter Turn.admitted)
        logged ∧
      (rest = [] ∧ ran.2 = reached ∧
          ran.1 = .ok ⟨logged.length, (before.filter fun t => !t.admitted).length⟩ ∨
        ∃ t after cause last, rest = t :: after ∧ Stops find t reached cause last ∧
          ran.1 = .error (t.failure cause) ∧ ran.2.world = last ∧
          (last.log = reached.world.log ∨
            ∃ entry, last.log = reached.world.log ++ [entry] ∧ Shows t.step.action t.event entry)) := by
  intro ran
  obtain ⟨-, early⟩ := Action.check_eq_ok_iff.1 ready
  obtain ⟨result, world⟩ := run_eq_walk find runbook events s
  rcases Dispatch.passed_or_stops ((turns runbook.steps events).map (Turn.pair find)) s with
    passed | ⟨front, p, back, split, passed, stops⟩
  · have passes := passes_of_passed early cut passed
    obtain ⟨logged, log, shown⟩ := passes.log
    refine ⟨_, [], _, logged, (List.append_nil _).symm, passes, passes.deadline, log, shown,
      .inl ⟨rfl, ?_, ?_⟩⟩
    · rw [world, Dispatch.walk_of_passed passed]
    · rw [result, Dispatch.walk_of_passed passed, counts_map_pair, ← shown.length_eq]
      rfl
  · obtain ⟨before, rest, eq, rfl, splitRest⟩ := List.map_eq_append_iff.1 split
    obtain ⟨t, after, rfl, rfl, rfl⟩ := List.map_eq_cons_iff.1 splitRest
    have passes := passes_of_passed early cut passed
    obtain ⟨logged, log, shown⟩ := passes.log
    obtain ⟨cause, last, stopped, failed, left⟩ :=
      stops_of_stops (passes.deadline ▸ early) (passes.cutOff cut) stops
    rw [split, Dispatch.walk_of_stops passed stops] at result world
    refine ⟨before, t :: after, _, logged, eq, passes, passes.deadline, log, shown,
      .inr ⟨t, after, cause, last, rfl, stopped, ?_, ?_, stopped.log⟩⟩
    · rw [result, failed]
      rfl
    · rw [world, left]

/-- A program is started for both events, the second time without reading, so that its pipe is closed;
then the first message is answered, and of the second answer, a failure, the body hangs until the
deadline: that turn fails, with its request logged. -/
theorem run_leaves_trace_late :
    let url : Url := ⟨true, [], .domain ['h'], none, [['x']], none, none⟩
    let program : Action.Program := ⟨"./probe", [⟨"exec-arg[0]", [], [.text ['a']]⟩]⟩
    let notice : Action.Notice := ⟨url, ⟨"slack", [], [.text ['b']]⟩⟩
    let runbook : Runbook := ⟨[⟨.exec program, none⟩, ⟨.slack notice, none⟩]⟩
    let events : List Event := [⟨[]⟩, ⟨[("id", .null)]⟩]
    let closing : Ending :=
      .started false (.comes (.error .brokenPipe) false) (.comes (.ok (.ofCode 0)) false)
    let replies : List Reply := [.response 204 [] true, .comes (some ⟨500, .hanging⟩) false]
    let s : Situation Script :=
      ⟨⟨false, some .ahead⟩, ⟨replies, [.ended (.ofCode 0) true, closing], [], []⟩⟩
    let ran := Runbook.run (Script.services fun _ => .ok ()) runbook events s
    s.context.check = .ok () ∧ CutOff s ∧
      ran.2.world.log =
        [.started ⟨"./probe", ["a"], "\x7b\x7d"⟩ true,
          .started ⟨"./probe", ["a"], "\x7b\"id\":null\x7d"⟩ false,
          .posted ⟨url, none, "\x7b\"text\":\"b\"\x7d"⟩,
          .posted ⟨url, none, "\x7b\"text\":\"b\"\x7d"⟩] ∧
      ∃ (t : Turn) (reached : Situation Script) (last : Script), t.index = 1 ∧ t.place = 1 ∧
        Stops (fun _ => .ok ()) t reached .deadlineExceeded last := by
  intro url program notice runbook events closing replies s ran
  have ready : s.context.check = .ok () := rfl
  have cut : CutOff s := fun unlimited => by cases unlimited
  have late : ran.1 = .error (.dispatch ⟨1, .slack, 1, .deadlineExceeded⟩) := by decide +kernel
  obtain ⟨before, rest, reached, logged, -, -, -, -, -, ended⟩ :=
    run_leaves_trace (fun _ => .ok ()) runbook events s ready cut
  refine ⟨ready, cut, by decide +kernel, ?_⟩
  rcases ended with ⟨-, -, ended⟩ | ⟨t, after, cause, last, -, stops, failed, -, -⟩
  · exact absurd (ended.symm.trans late) (by simp)
  · have same : t.failure cause = .dispatch ⟨1, .slack, 1, .deadlineExceeded⟩ :=
      Outcome.error.inj (failed.symm.trans late)
    injection same with same
    injection same with index kind place cause
    subst cause
    exact ⟨t, reached, last, index, place, stops⟩

-- a program that cannot be fed is killed, although it would never end
example :
    let runbook : Runbook := ⟨[⟨.exec ⟨"./probe", []⟩, none⟩]⟩
    let ending : Ending := .started false (.comes (.error (.other "full")) false) .hanging
    let s : Situation Script := ⟨.unlimited, ⟨[], [ending], [], []⟩⟩
    let ran := Runbook.run (Script.services fun _ => .ok ()) runbook [⟨[]⟩] s
    ran.1 = .error (.dispatch ⟨0, .exec, 0, .stdin "./probe" (.other "full")⟩) ∧
      ran.2.world.killed = [⟨"./probe", [], "\x7b\x7d"⟩] := by
  decide +kernel

end Responder.Runbook
