/-
# Responder.Proofs.Dispatch.Cancellation -- a cancelled token stays cancelled and stops everything

A cancelled context lets nothing begin: its check and its work are refused, and so is
every run, at its first pair if it has one (`run_of_cancelled`).  An execution that
cancels the context is the last of its run, however it ends (`walk_of_cancelling`).
So contexts that share a token stay cancelled from the step that cancels it, whatever
their holders do, and nothing is done to the world any more (`after_of_cancelled`).
-/
import Responder.Dispatch.Holders
import Responder.Proofs.Action.Looking
import Responder.Proofs.Dispatch.Calls

namespace Responder.Dispatch

set_option autoImplicit false

open Responder.Action (Situation Outcome Context Work run_work_of_cancelled)

variable {σ : Type}

/-! ## Under a cancelled context -/

theorem check_of_cancelled {c : Context} (cancelled : c.cancelled = true) : c.check = .error .cancelled :=
  if_pos cancelled

/-- What comes of a run under a cancelled context: the first pair is refused, if there is one. -/
def refusal : List (Executable σ) → List Event → Result
  | a :: _, _ :: _ => .error ⟨0, a.kind, 0, .cancelled⟩
  | _, _ => .ok Stats.zero

theorem walk_of_cancelled {p : Pair σ} {s : Situation σ} (cancelled : s.context.cancelled = true)
    (ps : List (Pair σ)) : walk (p :: ps) s = (.error (p.failure .cancelled), s) := by
  rw [walk, Pair.turn_of_check_error (check_of_cancelled cancelled)]
  rfl

theorem world_walk_of_cancelled {s : Situation σ} (cancelled : s.context.cancelled = true)
    (ps : List (Pair σ)) : (walk ps s).2 = s :=
  situation_walk_of_check_error (check_of_cancelled cancelled) ps

theorem pairs_nil (actions : List (Executable σ)) : pairs actions [] = [] := by
  simp [pairs, pairsFrom, eventPairs]

/-- **A run under a cancelled context is refused and leaves its situation as it is.** -/
theorem run_of_cancelled {s : Situation σ} (cancelled : s.context.cancelled = true)
    (actions : List (Executable σ)) (events : List Event) :
    run actions events s = (refusal actions events, s) := by
  cases actions with
  | nil => rfl
  | cons a actions =>
      rw [run_eq_walk]
      cases events with
      | nil => rw [pairs_nil]; rfl
      | cons event events => exact walk_of_cancelled cancelled _

/-! ## An execution that cancels -/

theorem situation_conclude (p : Pair σ) (ended : Outcome Action.Error Unit × Situation σ) :
    (p.conclude ended).2 = ended.2 := by
  obtain ⟨outcome, s⟩ := ended
  cases outcome <;> rfl

theorem situation_continueWith {first : Result × Situation σ} {next : Situation σ → Result × Situation σ}
    (stays : (next first.2).2 = first.2) : (continueWith first next).2 = first.2 := by
  obtain ⟨result, s⟩ := first
  cases result with
  | error failure => rfl
  | endless => rfl
  | ok stats => exact stays

/-- **An execution that cancels the context is the last of its walk**: the walk ends in the situation
that this execution has left, whether it went well or not. -/
theorem walk_of_cancelling {before after : List (Pair σ)} {p : Pair σ} {s : Situation σ}
    (passed : Passed before s) (begins : (reached before s).context.check = .ok ()) (admitted : p.admitted)
    (cancels : (p.execute (reached before s)).2.context.cancelled = true) :
    (walk (before ++ p :: after) s).2 = (p.execute (reached before s)).2 := by
  have turned : (p.turn (reached before s)).2 = (p.execute (reached before s)).2 := by
    rw [Pair.turn_of_admitted begins admitted, situation_conclude]
  have stays : (walk after (p.turn (reached before s)).2).2 = (p.turn (reached before s)).2 :=
    world_walk_of_cancelled (turned ▸ cancels) after
  rw [walk_append, walk_of_passed passed]
  exact (situation_continueWith stays).trans turned

/-- No execution is started behind one that cancels the context, and the run leaves it cancelled. -/
theorem run_of_cancelling {actions : List (Executable σ)} {events : List Event} {s : Situation σ}
    {before after : List (Pair σ)} {p : Pair σ} (split : pairs actions events = before ++ p :: after)
    (passed : Passed before s) (begins : (reached before s).context.check = .ok ()) (admitted : p.admitted)
    (cancels : (p.execute (reached before s)).2.context.cancelled = true) :
    (run (recorded actions) events (unrecorded s)).2.world.calls = called before ++ [(p.index, p.event)] ∧
      (run actions events s).2.context.cancelled = true := by
  constructor
  · have same : plain (reached (before.map Pair.recorded) (unrecorded s)) = reached before s :=
      plain_reached before (unrecorded s)
    have ended : (walk (before.map Pair.recorded ++ p.recorded :: after.map Pair.recorded) (unrecorded s)).2 =
        (p.recorded.execute (reached (before.map Pair.recorded) (unrecorded s))).2 := by
      refine walk_of_cancelling (passed_recorded.2 passed) ?_ admitted ?_
      · rw [← context_plain, same]
        exact begins
      · rw [execute_recorded, same]
        exact cancels
    rw [run_eq_walk, pairs_recorded, split, List.map_append, List.map_cons, ended, execute_recorded,
      calls_reached]
    rfl
  · rw [run_eq_walk, split, walk_of_cancelling passed begins admitted cancels]
    exact cancels

/-! ## Contexts that share a token -/

/-- An act under a cancelled context changes nothing. -/
theorem Act.perform_of_cancelled {s : Situation σ} (cancelled : s.context.cancelled = true) (act : Act σ) :
    act.perform s = s := by
  obtain ⟨⟨_, deadline⟩, world⟩ := s
  cases cancelled
  cases act with
  | cancel => rfl
  | check => rfl
  | await work =>
      rw [perform, Situation.await, run_work_of_cancelled rfl]
  | dispatch actions events =>
      rw [perform, run_of_cancelled rfl]

namespace Holders

variable {h : Holders σ} {holder : Nat} {s : Situation σ}

theorem situation?_eq_some_iff : h.situation? holder = some s ↔
    ∃ deadline, h.deadlines[holder]? = some deadline ∧ s = ⟨⟨h.cancelled, deadline⟩, h.world⟩ := by
  simp only [situation?, Option.map_eq_some_iff, eq_comm (b := s)]

/-- Every holder's context is cancelled when the token is. -/
theorem cancelled_of_situation? (there : h.situation? holder = some s) :
    s.context.cancelled = h.cancelled := by
  obtain ⟨deadline, -, rfl⟩ := situation?_eq_some_iff.1 there
  rfl

theorem world_of_situation? (there : h.situation? holder = some s) : s.world = h.world := by
  obtain ⟨deadline, -, rfl⟩ := situation?_eq_some_iff.1 there
  rfl

/-- A step on a cancelled token changes no more than deadlines. -/
theorem step_of_cancelled (cancelled : h.cancelled = true) (step : Step σ) :
    (h.step step).cancelled = true ∧ (h.step step).world = h.world := by
  cases step with
  | join => exact ⟨cancelled, rfl⟩
  | clone holder | limit holder deadline =>
      simp only [Holders.step]
      cases h.situation? holder <;> exact ⟨cancelled, rfl⟩
  | expire holder => exact ⟨cancelled, rfl⟩
  | act holder act =>
      simp only [Holders.step]
      cases there : h.situation? holder with
      | none => exact ⟨cancelled, rfl⟩
      | some s =>
          have own : s.context.cancelled = true := (cancelled_of_situation? there).trans cancelled
          simp only [leave, Act.perform_of_cancelled own]
          exact ⟨own, world_of_situation? there⟩

/-- **A cancelled token stays cancelled, and nothing is done to the world any more.** -/
theorem after_of_cancelled (cancelled : h.cancelled = true) (steps : List (Step σ)) :
    (h.after steps).cancelled = true ∧ (h.after steps).world = h.world := by
  induction steps generalizing h with
  | nil => exact ⟨cancelled, rfl⟩
  | cons first rest ih =>
      obtain ⟨still, same⟩ := step_of_cancelled cancelled first
      obtain ⟨later, world⟩ := ih still
      exact ⟨later, world.trans same⟩

end Holders

/-- **Cancellation is for good and stops everything.**  Any holder can cancel the token; so can an
execution in the middle of a run, which then is the last one that this run starts.  Once the token is
cancelled, it is so after all later steps, and the world stays as it is: every context is cancelled,
its check and its work are refused whatever its deadline, the work without a look at it, and every
run is refused at its first pair, if it has one, without a call and with nothing changed. -/
theorem cancelled_for_good (h : Holders σ) :
    (∀ holder s, h.situation? holder = some s → (h.step (.act holder .cancel)).cancelled = true) ∧
    (∀ holder s actions events before p after, h.situation? holder = some s →
      pairs actions events = before ++ p :: after → Passed before s →
      (reached before s).context.check = .ok () → p.admitted →
      (p.execute (reached before s)).2.context.cancelled = true →
        (run (recorded actions) events (unrecorded s)).2.world.calls = called before ++ [(p.index, p.event)] ∧
          (h.step (.act holder (.dispatch actions events))).cancelled = true) ∧
    ∀ steps later : List (Holders.Step σ), (h.after steps).cancelled = true →
      let now := (h.after steps).after later
      now.cancelled = true ∧ now.world = (h.after steps).world ∧
      ∀ holder s, now.situation? holder = some s →
        s.context.cancelled = true ∧ s.context.check = .error .cancelled ∧
        (∀ (α : Type) (work : Work (Except Action.Error α)),
          s.context.run work = ⟨.error .cancelled, s.context, 0⟩) ∧
        ∀ (actions : List (Executable σ)) (events : List Event),
          run actions events s = (refusal actions events, s) ∧
            (run (recorded actions) events (unrecorded s)).2.world.calls = [] := by
  refine ⟨?_, ?_, ?_⟩
  · intro holder s there
    simp only [Holders.step, there]
    rfl
  · intro holder s actions events before p after there split passed begins admitted cancels
    obtain ⟨calls, cancelled⟩ := run_of_cancelling split passed begins admitted cancels
    refine ⟨calls, ?_⟩
    simp only [Holders.step, there]
    exact cancelled
  · intro steps later cancelled now
    obtain ⟨still, world⟩ := Holders.after_of_cancelled cancelled later
    refine ⟨still, world, ?_⟩
    intro holder s there
    have own : s.context.cancelled = true := (Holders.cancelled_of_situation? there).trans still
    refine ⟨own, check_of_cancelled own, fun _ work => run_work_of_cancelled own work, ?_⟩
    intro actions events
    have noted : run (recorded actions) events (unrecorded s) = (refusal (recorded actions) events, unrecorded s) :=
      run_of_cancelled (s := unrecorded s) own (recorded actions) events
    exact ⟨run_of_cancelled own actions events, by rw [noted]; rfl⟩

/-- One of three holders runs an action that cancels and goes well: its second event is not taken up,
and from then on the holder whose deadline has passed is told that it is cancelled, as is one that
comes later, and a run of theirs leaves the log at one entry. -/
theorem cancelled_for_good_late :
    let noting : Executable (List String) :=
      ⟨.exec, fun _ => true, fun _ s => (.ok (), { s with world := s.world ++ ["noting"] })⟩
    let cancelling : Executable (List String) :=
      ⟨.slack, fun _ => true, fun _ s => (.ok (), ⟨s.context.cancel, s.world ++ ["cancelling"]⟩)⟩
    let event : Event := ⟨[]⟩
    let events := [event, event]
    let h : Holders (List String) := ⟨false, [none, some .passed], []⟩
    let s : Situation (List String) := ⟨⟨false, some .ahead⟩, []⟩
    let steps := [.limit 0 .ahead, .act 2 (.dispatch [cancelling, noting] events)]
    let later := [.join, .expire 2, .act 3 (.dispatch [noting] events), .clone 1]
    let now := (h.after steps).after later
    (h.step (.limit 0 .ahead)).situation? 2 = some s ∧ (h.after steps).cancelled = true ∧
      (run (recorded [cancelling, noting]) events (unrecorded s)).2.world.calls = [(0, event)] ∧
      now.world = ["cancelling"] ∧ now.deadlines = [none, some .passed, some .passed, none, some .passed] ∧
      ∀ holder s, now.situation? holder = some s →
        s.context.check = .error .cancelled ∧
          run [noting] events s = (.error ⟨0, .exec, 0, .cancelled⟩, s) ∧ run [noting] [] s = (.ok ⟨0, 0⟩, s) := by
  intro noting cancelling event events h s steps later now
  have there : (h.step (.limit 0 .ahead)).situation? 2 = some s := rfl
  have cancelled : (h.after steps).cancelled = true := by decide
  obtain ⟨-, amid, -⟩ := cancelled_for_good (h.step (.limit 0 .ahead))
  obtain ⟨-, -, behind⟩ := cancelled_for_good h
  obtain ⟨calls, -⟩ := amid 2 s [cancelling, noting] events [] ⟨0, cancelling, 0, event⟩
    [⟨0, cancelling, 1, event⟩, ⟨1, noting, 0, event⟩, ⟨1, noting, 1, event⟩] there rfl (passed_nil s) rfl rfl rfl
  obtain ⟨-, world, holders⟩ := behind steps later cancelled
  refine ⟨there, cancelled, calls, world, rfl, fun holder t found => ?_⟩
  obtain ⟨-, checked, -, refused⟩ := holders holder t found
  exact ⟨checked, (refused [noting] events).1, (refused [noting] []).1⟩

end Responder.Dispatch
