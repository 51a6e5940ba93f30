/-
# Responder.Proofs.Dispatch.Split -- a run in two parts

A run over two lists of actions is the run over the first and then, where that one
has left off, the run over the second; and for a single action the events may be
parted in the same way (`run_splits`).  The second part counts its places from its
own start, so its failure is moved behind the first part (`walk_moved`); everything
else, the world and the context with them, passes from one part to the other as it
is.
-/
import Responder.Proofs.Dispatch.Walk

namespace Responder.Dispatch

set_option autoImplicit false

open Responder.Action (Situation Outcome)

variable {σ : Type}

/-! ## Places further on -/

/-- A failure behind so many actions and so many events. -/
def Failure.behind (actions events : Nat) (f : Failure) : Failure :=
  { f with action := actions + f.action, event := events + f.event }

/-- A pair behind so many actions and so many events. -/
def Pair.behind (actions events : Nat) (p : Pair σ) : Pair σ :=
  { p with index := actions + p.index, place := events + p.place }

theorem eventPairs_behind (index place actions later : Nat) (a : Executable σ) (events : List Event) :
    eventPairs (actions + index) a (later + place) events =
      (eventPairs index a place events).map (Pair.behind actions later) := by
  induction events generalizing place with
  | nil => rfl
  | cons event rest ih => exact congrArg (_ :: ·) (ih (place + 1))

theorem pairsFrom_behind (events : List Event) (before index : Nat) (actions : List (Executable σ)) :
    pairsFrom events (before + index) actions =
      (pairsFrom events index actions).map (Pair.behind before 0) := by
  induction actions generalizing index with
  | nil => rfl
  | cons a rest ih =>
      have own := eventPairs_behind index 0 before 0 a events
      have later := ih (index + 1)
      rw [pairsFrom_cons, pairsFrom_cons, List.map_append, ← own, ← later]
      rfl

theorem pairs_append (actions more : List (Executable σ)) (events : List Event) :
    pairs (actions ++ more) events =
      pairs actions events ++ (pairs more events).map (Pair.behind actions.length 0) := by
  have later := pairsFrom_behind events actions.length 0 more
  rw [pairs, pairs, pairs, ← later, pairsFrom, List.zipIdx_append, List.flatMap_append, Nat.zero_add]
  rfl

theorem eventPairs_append (index : Nat) (a : Executable σ) (events more : List Event) :
    eventPairs index a 0 (events ++ more) =
      eventPairs index a 0 events ++ (eventPairs index a 0 more).map (Pair.behind 0 events.length) := by
  have later := eventPairs_behind index 0 0 events.length a more
  rw [Nat.zero_add] at later
  rw [← later, eventPairs, List.zipIdx_append, List.map_append, Nat.zero_add]
  rfl

theorem pairs_singleton (a : Executable σ) (events : List Event) : pairs [a] events = eventPairs 0 a 0 events := by
  rw [pairs, pairsFrom_cons]
  exact List.append_nil _

/-! ## The walk over pairs further on -/

/-- What comes of pairs further on: nothing but a failure tells where they are. -/
def moved (actions events : Nat) (ended : Result × Situation σ) : Result × Situation σ :=
  (ended.1.mapError (Failure.behind actions events), ended.2)

theorem turn_behind (actions events : Nat) (p : Pair σ) (s : Situation σ) :
    (p.behind actions events).turn s = moved actions events (p.turn s) := by
  cases checked : s.context.check with
  | error cause =>
      rw [Pair.turn_of_check_error checked, Pair.turn_of_check_error checked]
      rfl
  | ok =>
      by_cases admitted : p.admitted
      · rw [Pair.turn_of_admitted checked admitted,
          Pair.turn_of_admitted (p := p.behind actions events) checked admitted]
        change Pair.conclude (p.behind actions events) (p.execute s) = _
        rcases p.execute s with ⟨outcome, after⟩
        cases outcome <;> rfl
      · rw [Pair.turn_of_not_admitted checked admitted,
          Pair.turn_of_not_admitted (p := p.behind actions events) checked admitted]
        rfl

theorem moved_continueWith (actions events : Nat) (first : Result × Situation σ)
    (next : Situation σ → Result × Situation σ) :
    moved actions events (continueWith first next) =
      continueWith (moved actions events first) fun s => moved actions events (next s) := by
  obtain ⟨result, s⟩ := first
  cases result with
  | error failure => rfl
  | endless => rfl
  | ok stats =>
      simp only [moved, continueWith, Outcome.mapError]
      cases (next s).1 <;> rfl

/-- **Pairs further on are walked in the same way.** -/
theorem walk_moved (actions events : Nat) (ps : List (Pair σ)) (s : Situation σ) :
    walk (ps.map (Pair.behind actions events)) s = moved actions events (walk ps s) := by
  induction ps generalizing s with
  | nil => rfl
  | cons p ps ih =>
      rw [List.map_cons, walk, walk, moved_continueWith, turn_behind]
      congr 1
      funext t
      exact ih t

/-! ## Two parts -/

/-- What comes of two runs in turn, the second behind so many actions and events of the first: the
first one's failure ends both, and otherwise the second starts where the first has left off, its
failure is told from the start of both, and the counts are added. -/
def inTurn (actions events : Nat) (first : Result × Situation σ)
    (second : Situation σ → Result × Situation σ) : Result × Situation σ :=
  match first with
  | (.error failure, s) => (.error failure, s)
  | (.endless, s) => (.endless, s)
  | (.ok stats, s) =>
    match second s with
    | (.error failure, t) => (.error (failure.behind actions events), t)
    | (.endless, t) => (.endless, t)
    | (.ok more, t) => (.ok (stats.add more), t)

theorem inTurn_eq (actions events : Nat) (first : Result × Situation σ)
    (second : Situation σ → Result × Situation σ) :
    inTurn actions events first second = continueWith first fun s => moved actions events (second s) := by
  obtain ⟨result, s⟩ := first
  cases result with
  | error failure => rfl
  | endless => rfl
  | ok stats =>
      simp only [inTurn, continueWith, moved]
      rcases second s with ⟨more, t⟩
      cases more <;> rfl

/-- **A run can be split.**  Whatever executions do: the run of two lists of actions is the run of the
first and then, if that goes well, the run of the second from the world and the context that the first
has left, with the second one's action counted behind the first list.  The run of one action over two
lists of events is split in the same way, with the second one's event counted behind the first list. -/
theorem run_splits (actions more : List (Executable σ)) (a : Executable σ) (events later : List Event)
    (s : Situation σ) :
    run (actions ++ more) events s = inTurn actions.length 0 (run actions events s) (run more events) ∧
      run [a] (events ++ later) s = inTurn 0 events.length (run [a] events s) (run [a] later) := by
  constructor
  · rw [inTurn_eq, run_eq_walk, run_eq_walk, pairs_append, walk_append]
    congr 1
    funext t
    rw [walk_moved, run_eq_walk]
  · rw [inTurn_eq, run_eq_walk, run_eq_walk, pairs_singleton, pairs_singleton, eventPairs_append, walk_append]
    congr 1
    funext t
    rw [walk_moved, run_eq_walk, pairs_singleton]

end Responder.Dispatch
