/-
# Responder.Proofs.Dispatch.Stopping -- where a run stops

The pair at which a run stops is the first, action by action and event by event,
whose check fails, or which is admitted and not executed well.  The calls that a
run makes, its counts and its failure are all told by that pair
(`run_stops_at_first`), whatever executions do to the world and to the context.
-/
import Responder.Proofs.Dispatch.Calls

namespace Responder.Dispatch

set_option autoImplicit false

open Responder.Action (Situation Outcome Context)

variable {σ : Type}

/-! ## Places of pairs -/

theorem getElem?_eventPairs (index : Nat) (a : Executable σ) (place : Nat) (events : List Event)
    (j : Nat) : (eventPairs index a place events)[j]? =
      events[j]?.map fun event => ⟨index, a, place + j, event⟩ := by
  simp [eventPairs, List.getElem?_zipIdx, Function.comp_def]

theorem getElem?_pairsFrom (events : List Event) (index : Nat) (actions : List (Executable σ))
    (i j : Nat) (bound : j < events.length) :
    (pairsFrom events index actions)[i * events.length + j]? =
      actions[i]?.bind fun a => (eventPairs (index + i) a 0 events)[j]? := by
  induction actions generalizing index i with
  | nil => rfl
  | cons a rest ih =>
      rw [pairsFrom_cons]
      cases i with
      | zero =>
          rw [Nat.zero_mul, Nat.zero_add,
            List.getElem?_append_left (by rw [length_eventPairs]; exact bound)]
          rfl
      | succ i =>
          have shift : (i + 1) * events.length + j = events.length + (i * events.length + j) := by
            rw [Nat.succ_mul]
            omega
          rw [shift, List.getElem?_append_right (by rw [length_eventPairs]; omega), length_eventPairs,
            Nat.add_sub_cancel_left, ih, List.getElem?_cons_succ, Nat.add_right_comm, Nat.add_assoc]

/-- A pair tells its own place among the pairs: as many whole actions come before it as its index
says, and as many events of its own action as its place says. -/
theorem place_of_pairs {actions : List (Executable σ)} {events : List Event}
    {before after : List (Pair σ)} {p : Pair σ}
    (split : pairs actions events = before ++ p :: after) :
    actions[p.index]? = some p.action ∧ events[p.place]? = some p.event ∧
      before.length = p.index * events.length + p.place := by
  have here : (pairs actions events)[before.length]? = some p := by simp [split]
  have total : (pairs actions events).length = actions.length * events.length :=
    length_pairsFrom events 0 actions
  have nonempty : 0 < events.length := by
    apply Nat.pos_of_ne_zero
    intro none
    rw [none, Nat.mul_zero, split] at total
    simp at total
  have parts : before.length / events.length * events.length + before.length % events.length =
      before.length := Nat.div_add_mod' _ _
  rw [← parts, pairs, getElem?_pairsFrom _ _ _ _ _ (Nat.mod_lt _ nonempty)] at here
  obtain ⟨a, foundAction, here⟩ := Option.bind_eq_some_iff.1 here
  rw [getElem?_eventPairs] at here
  obtain ⟨event, foundEvent, rfl⟩ := Option.map_eq_some_iff.1 here
  simp only [Nat.zero_add]
  exact ⟨foundAction, foundEvent, parts.symm⟩

/-! ## The pair that stops a run -/

/-- Where a run stops: after the pairs `before` are passed, the pair `p` is the first that stops. -/
structure StopsAt (actions : List (Executable σ)) (events : List Event) (s : Situation σ)
    (before : List (Pair σ)) (p : Pair σ) (after : List (Pair σ)) : Prop where
  split : pairs actions events = before ++ p :: after
  passed : Passed before s
  stops : p.Stops (reached before s)

theorem run_recorded_eq_walk (actions : List (Executable σ)) (events : List Event) (s : Situation σ) :
    run (recorded actions) events (unrecorded s) =
      walk ((pairs actions events).map Pair.recorded) (unrecorded s) := by
  rw [run_eq_walk, pairs_recorded]

theorem run_recorded_of_passed {actions : List (Executable σ)} {events : List Event} {s : Situation σ}
    (passed : Passed (pairs actions events) s) :
    run (recorded actions) events (unrecorded s) =
      (.ok (counts (pairs actions events)),
        reached ((pairs actions events).map Pair.recorded) (unrecorded s)) := by
  have passedNoting : Passed ((pairs actions events).map Pair.recorded) (unrecorded s) :=
    passed_recorded.2 passed
  rw [run_recorded_eq_walk, walk_of_passed passedNoting, counts_recorded]

theorem run_recorded_of_stops {actions : List (Executable σ)} {events : List Event} {s : Situation σ}
    {before after : List (Pair σ)} {p : Pair σ} (stopsAt : StopsAt actions events s before p after) :
    run (recorded actions) events (unrecorded s) =
      p.recorded.turn (reached (before.map Pair.recorded) (unrecorded s)) := by
  have passedNoting : Passed (before.map Pair.recorded) (unrecorded s) :=
    passed_recorded.2 stopsAt.passed
  have stopsNoting : p.recorded.Stops (reached (before.map Pair.recorded) (unrecorded s)) := by
    rw [stops_recorded, plain_reached]
    exact stopsAt.stops
  rw [run_recorded_eq_walk, stopsAt.split, List.map_append, List.map_cons,
    walk_of_stops passedNoting stopsNoting]

/-- Without a pair that stops, everything admitted is called, and everything is counted. -/
theorem outcome_of_passed {actions : List (Executable σ)} {events : List Event} {s : Situation σ}
    (passed : Passed (pairs actions events) s) :
    (run (recorded actions) events (unrecorded s)).2.world.calls = called (pairs actions events) ∧
      ∃ stats, (run (recorded actions) events (unrecorded s)).1 = .ok stats ∧
        stats.executed = (called (pairs actions events)).length ∧
        stats.executed + stats.skipped = actions.length * events.length := by
  rw [run_recorded_of_passed passed]
  refine ⟨by rw [calls_reached]; rfl, _, rfl, (length_called _).symm, ?_⟩
  rw [counts_total, pairs, length_pairsFrom]

/-- A failed check is reported with its pair, which is not called. -/
theorem outcome_of_check_error {actions : List (Executable σ)} {events : List Event}
    {s : Situation σ} {before after : List (Pair σ)} {p : Pair σ} {cause : Action.Error}
    (stopsAt : StopsAt actions events s before p after)
    (checked : (reached before s).context.check = .error cause) :
    (run (recorded actions) events (unrecorded s)).1 = .error (p.failure cause) ∧
      (run (recorded actions) events (unrecorded s)).2.world.calls = called before := by
  have checkedNoting :
      (reached (before.map Pair.recorded) (unrecorded s)).context.check = .error cause := by
    rw [← context_plain, plain_reached]
    exact checked
  rw [run_recorded_of_stops stopsAt, Pair.turn_of_check_error checkedNoting]
  refine ⟨rfl, ?_⟩
  rw [calls_reached]
  rfl

/-- After a check that succeeds, the pair that stops the run is admitted, called and reported,
if its execution ends. -/
theorem outcome_of_execute {actions : List (Executable σ)} {events : List Event}
    {s : Situation σ} {before after : List (Pair σ)} {p : Pair σ}
    (stopsAt : StopsAt actions events s before p after)
    (checked : (reached before s).context.check = .ok ()) :
    p.admitted ∧
      (run (recorded actions) events (unrecorded s)).2.world.calls =
        called before ++ [(p.index, p.event)] ∧
      ((∃ cause, (p.execute (reached before s)).1 = .error cause ∧
          (run (recorded actions) events (unrecorded s)).1 = .error (p.failure cause)) ∨
        (p.execute (reached before s)).1 = .endless ∧
          (run (recorded actions) events (unrecorded s)).1 = .endless) := by
  obtain ⟨cause, failed⟩ | ⟨admitted, bad⟩ := stopsAt.stops
  · rw [checked] at failed
    contradiction
  · have same : plain (reached (before.map Pair.recorded) (unrecorded s)) = reached before s :=
      plain_reached before (unrecorded s)
    have checkedNoting :
        (reached (before.map Pair.recorded) (unrecorded s)).context.check = .ok () := by
      rw [← context_plain, same]
      exact checked
    rw [run_recorded_of_stops stopsAt, Pair.turn_of_admitted checkedNoting admitted,
      execute_recorded, same, calls_reached]
    refine ⟨admitted, ?_⟩
    rcases executed : p.execute (reached before s) with ⟨outcome, last⟩
    rw [executed] at bad
    cases outcome with
    | ok => exact absurd rfl bad
    | error cause => exact ⟨rfl, .inl ⟨cause, rfl, rfl⟩⟩
    | endless => exact ⟨rfl, .inr ⟨rfl, rfl⟩⟩

/-- An execution that goes well but cancels the context is the last, and the next pair, admitted
or not, is the one that fails. -/
theorem outcome_of_cancelled {actions : List (Executable σ)} {events : List Event}
    {s : Situation σ} {before after : List (Pair σ)} {p : Pair σ}
    (split : pairs actions events = before ++ p :: after) (passed : Passed (before ++ [p]) s)
    (admitted : p.admitted) (cancelled : (p.execute (reached before s)).2.context.cancelled) :
    (run (recorded actions) events (unrecorded s)).2.world.calls =
        called before ++ [(p.index, p.event)] ∧
      (after = [] → ∃ stats, (run (recorded actions) events (unrecorded s)).1 = .ok stats) ∧
      ∀ q rest, after = q :: rest →
        (run (recorded actions) events (unrecorded s)).1 = .error (q.failure .cancelled) := by
  have calledHere : called (before ++ [p]) = called before ++ [(p.index, p.event)] := by
    rw [called_append, called_singleton admitted]
  cases after with
  | nil =>
      rw [← split] at passed calledHere
      obtain ⟨calls, stats, result, -⟩ := outcome_of_passed passed
      refine ⟨calls.trans calledHere, fun _ => ⟨stats, result⟩, fun q rest more => ?_⟩
      contradiction
  | cons q rest =>
      have checked : (reached (before ++ [p]) s).context.check = .error .cancelled := by
        rw [reached_append, reached_cons, reached_nil, Pair.after, if_pos admitted,
          Action.Context.check, if_pos cancelled]
      have stopsAt : StopsAt actions events s (before ++ [p]) q rest :=
        ⟨by rw [split, List.append_assoc]; rfl, passed, .inl ⟨_, checked⟩⟩
      obtain ⟨result, calls⟩ := outcome_of_check_error stopsAt checked
      refine ⟨calls.trans calledHere, fun none => by contradiction, fun q' rest' more => ?_⟩
      obtain ⟨rfl, rfl⟩ := List.cons.inj more
      exact result

/-- **A run stops at the first pair that stops, and calls what comes before.** Whatever executions
do to the world and to the context: without a pair that stops, every admitted pair is called once
and in order, and all pairs are counted; otherwise the calls are those of the admitted pairs before
it, and its own if its check succeeded, and it is the one that is reported.  So an execution that
goes well and cancels the context makes the next pair fail, if there is one. -/
theorem run_stops_at_first (actions : List (Executable σ)) (events : List Event) (s : Situation σ) :
    let noted := run (recorded actions) events (unrecorded s)
    let calls := noted.2.world.calls
    run actions events s = (noted.1, plain noted.2) ∧
    (Passed (pairs actions events) s ∨ ∃ before p after, StopsAt actions events s before p after) ∧
    (Passed (pairs actions events) s →
      calls = called (pairs actions events) ∧
        ∃ stats, noted.1 = .ok stats ∧ stats.executed = calls.length ∧
          stats.executed + stats.skipped = actions.length * events.length) ∧
    (∀ before p after, StopsAt actions events s before p after →
      (actions[p.index]? = some p.action ∧ events[p.place]? = some p.event ∧
        before.length = p.index * events.length + p.place) ∧
      (∀ cause, (reached before s).context.check = .error cause →
        calls = called before ∧ noted.1 = .error ⟨p.index, p.action.kind, p.place, cause⟩) ∧
      ((reached before s).context.check = .ok () →
        p.admitted ∧ calls = called before ++ [(p.index, p.event)] ∧
          ((∃ cause, (p.execute (reached before s)).1 = .error cause ∧
              noted.1 = .error ⟨p.index, p.action.kind, p.place, cause⟩) ∨
            (p.execute (reached before s)).1 = .endless ∧ noted.1 = .endless))) ∧
    (∀ before p after, pairs actions events = before ++ p :: after → Passed (before ++ [p]) s →
      p.admitted → (p.execute (reached before s)).2.context.cancelled →
      calls = called before ++ [(p.index, p.event)] ∧
        (after = [] → ∃ stats, noted.1 = .ok stats) ∧
        ∀ q rest, after = q :: rest →
          noted.1 = .error ⟨q.index, q.action.kind, q.place, .cancelled⟩) := by
  intro noted calls
  refine ⟨?_, ?_, ?_, ?_, ?_⟩
  · obtain ⟨result, world⟩ := walk_recorded (pairs actions events) (unrecorded s)
    rw [← run_recorded_eq_walk, plain_unrecorded, ← run_eq_walk] at result world
    exact Prod.ext result.symm world.symm
  · rcases passed_or_stops (pairs actions events) s with
      passed | ⟨before, p, after, split, passed, stops⟩
    · exact .inl passed
    · exact .inr ⟨before, p, after, split, passed, stops⟩
  · intro passed
    obtain ⟨made, stats, result, executed, total⟩ := outcome_of_passed passed
    exact ⟨made, stats, result, executed.trans (congrArg List.length made).symm, total⟩
  · intro before p after stopsAt
    refine ⟨place_of_pairs stopsAt.split, fun cause checked => ?_, fun checked => ?_⟩
    · exact (outcome_of_check_error stopsAt checked).symm
    · exact outcome_of_execute stopsAt checked
  · intro before p after split passed admitted cancelled
    exact outcome_of_cancelled split passed admitted cancelled

/-- A cancellation with success fails the filtered-out pair after it, and nothing if it is the last;
a failure after pairs that are left out is reported with its own place. -/
theorem run_stops_at_first_cancelling :
    let cancelling : Executable Unit := ⟨.slack, fun _ => true, fun _ s => (.ok (), s.cancel)⟩
    let shut : Executable Unit := ⟨.exec, fun _ => false, fun _ s => (.ok (), s)⟩
    let late : Executable Unit := ⟨.jira, fun _ => true, fun _ s => (.error .deadlineExceeded, s)⟩
    let event : Event := ⟨[]⟩
    let fresh : Situation (Recorded Unit) := unrecorded ⟨.unlimited, ()⟩
    (run (recorded [cancelling, shut]) [event] fresh).1 = .error ⟨1, .exec, 0, .cancelled⟩ ∧
      (run (recorded [cancelling, shut]) [event] fresh).2.world.calls = [(0, event)] ∧
      (∃ stats, (run (recorded [cancelling]) [event] fresh).1 = .ok stats ∧ stats.executed = 1) ∧
      (run (recorded [shut, cancelling]) [event, event] fresh).1 = .error ⟨1, .slack, 1, .cancelled⟩ ∧
      (run (recorded [shut, late]) [event, event] fresh).2.world.calls = [(1, event)] := by
  intro cancelling shut late event fresh
  let s : Situation Unit := ⟨.unlimited, ()⟩
  obtain ⟨-, -, -, -, cancelled⟩ := run_stops_at_first [cancelling, shut] [event] s
  obtain ⟨-, -, passed, -, -⟩ := run_stops_at_first [cancelling] [event] s
  obtain ⟨-, -, -, checked, -⟩ := run_stops_at_first [shut, cancelling] [event, event] s
  obtain ⟨-, -, -, executed, -⟩ := run_stops_at_first [shut, late] [event, event] s
  obtain ⟨calls, -, next⟩ :=
    cancelled [] ⟨0, cancelling, 0, event⟩ [⟨1, shut, 0, event⟩] rfl (by decide) rfl rfl
  obtain ⟨made, stats, result, count, -⟩ := passed (by decide)
  let left : List (Pair Unit) := [⟨0, shut, 0, event⟩, ⟨0, shut, 1, event⟩]
  have second : StopsAt [shut, cancelling] [event, event] s
      (left ++ [⟨1, cancelling, 0, event⟩]) ⟨1, cancelling, 1, event⟩ [] :=
    ⟨rfl, by decide, by decide⟩
  have third : StopsAt [shut, late] [event, event] s left ⟨1, late, 0, event⟩ [⟨1, late, 1, event⟩] :=
    ⟨rfl, by decide, by decide⟩
  refine ⟨next _ [] rfl, calls, ⟨stats, result, ?_⟩, ?_, ?_⟩
  · exact count.trans (congrArg List.length made)
  · exact ((checked _ _ _ second).2.1 .cancelled rfl).2
  · exact ((executed _ _ _ third).2.2 rfl).2.1

end Responder.Dispatch
