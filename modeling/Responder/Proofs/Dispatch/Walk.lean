/-
# Responder.Proofs.Dispatch.Walk -- a run as one walk over pairs

Two nested loops over actions and events are one walk over the list of their
pairs (`run_eq_walk`), in which a pair stops the walk or leaves a situation to
the next.  `Passed` says that no pair of a list stops when its turn comes; then
the walk goes through (`walk_of_passed`), and otherwise it ends at the first pair
that stops (`walk_of_stops`).  There are no other cases (`passed_or_stops`).
-/
import Responder.Dispatch.Basic

namespace Responder.Dispatch

set_option autoImplicit false

open Responder.Action (Situation Outcome Kind)

variable {σ : Type}

/-! ## Pairs -/

/-- A pair of an action and an event, with the places of both. -/
structure Pair (σ : Type) where
  index : Nat
  action : Executable σ
  place : Nat
  event : Event

/-- The pairs of an action at `index` with events, of which the first is at `place`. -/
def eventPairs (index : Nat) (a : Executable σ) (place : Nat) (events : List Event) : List (Pair σ) :=
  (events.zipIdx place).map fun (event, j) => ⟨index, a, j, event⟩

/-- The pairs of actions, of which the first is at `index`, with all events: action by action,
and for an action event by event. -/
def pairsFrom (events : List Event) (index : Nat) (actions : List (Executable σ)) : List (Pair σ) :=
  (actions.zipIdx index).flatMap fun (a, i) => eventPairs i a 0 events

/-- The pairs of all actions with all events. -/
def pairs (actions : List (Executable σ)) (events : List Event) : List (Pair σ) :=
  pairsFrom events 0 actions

theorem pairsFrom_cons (events : List Event) (index : Nat) (a : Executable σ)
    (rest : List (Executable σ)) :
    pairsFrom events index (a :: rest) =
      eventPairs index a 0 events ++ pairsFrom events (index + 1) rest := by
  simp [pairsFrom]

theorem length_eventPairs (index : Nat) (a : Executable σ) (place : Nat) (events : List Event) :
    (eventPairs index a place events).length = events.length := by
  simp [eventPairs]

theorem length_pairsFrom (events : List Event) (index : Nat) (actions : List (Executable σ)) :
    (pairsFrom events index actions).length = actions.length * events.length := by
  induction actions generalizing index with
  | nil => simp [pairsFrom]
  | cons a rest ih =>
      rw [pairsFrom_cons, List.length_append, length_eventPairs, ih, List.length_cons, Nat.succ_mul,
        Nat.add_comm]

namespace Pair

/-- Whether the action is for the event. -/
def admitted (p : Pair σ) : Bool := p.action.admits p.event

/-- The execution of a pair. -/
def execute (p : Pair σ) (s : Situation σ) : Outcome Action.Error Unit × Situation σ :=
  p.action.execute p.event s

/-- What a pair leaves behind when it does not stop the walk: only what is admitted is executed. -/
def after (p : Pair σ) (s : Situation σ) : Situation σ :=
  if p.admitted then (p.execute s).2 else s

/-- Whether a pair ends the walk: the check fails, or the pair is admitted and not executed well. -/
def Stops (p : Pair σ) (s : Situation σ) : Prop :=
  (∃ cause, s.context.check = .error cause) ∨ p.admitted ∧ (p.execute s).1 ≠ .ok ()

/-- The failure of a pair. -/
def failure (p : Pair σ) (cause : Action.Error) : Failure := ⟨p.index, p.action.kind, p.place, cause⟩

/-- What comes of a pair alone by its execution. -/
def conclude (p : Pair σ) : Outcome Action.Error Unit × Situation σ → Result × Situation σ
  | (.error cause, after) => (.error (p.failure cause), after)
  | (.endless, after) => (.endless, after)
  | (.ok (), after) => (.ok Stats.zero.addExecuted, after)

/-- What comes of a pair alone. -/
def turn (p : Pair σ) (s : Situation σ) : Result × Situation σ :=
  match s.context.check with
  | .error cause => (.error (p.failure cause), s)
  | .ok () => if p.admitted then p.conclude (p.execute s) else (.ok Stats.zero.addSkipped, s)

theorem turn_of_check_error {p : Pair σ} {s : Situation σ} {cause : Action.Error}
    (checked : s.context.check = .error cause) : p.turn s = (.error (p.failure cause), s) := by
  rw [turn, checked]

theorem turn_of_admitted {p : Pair σ} {s : Situation σ} (checked : s.context.check = .ok ())
    (admitted : p.admitted) : p.turn s = p.conclude (p.execute s) := by
  rw [turn, checked]
  exact if_pos admitted

theorem turn_of_not_admitted {p : Pair σ} {s : Situation σ} (checked : s.context.check = .ok ())
    (left : ¬ p.admitted) : p.turn s = (.ok Stats.zero.addSkipped, s) := by
  rw [turn, checked]
  exact if_neg left

/-- Whether a pair ends the walk can be found out. -/
instance (p : Pair σ) (s : Situation σ) : Decidable (p.Stops s) :=
  match checked : s.context.check with
  | .error cause => isTrue (.inl ⟨cause, checked⟩)
  | .ok () =>
    decidable_of_iff (p.admitted ∧ (p.execute s).1 ≠ .ok ()) <| by
      simp [Stops, checked]

theorem check_of_not_stops {p : Pair σ} {s : Situation σ} (passes : ¬ p.Stops s) :
    s.context.check = .ok () := by
  cases checked : s.context.check with
  | ok => rfl
  | error cause => exact absurd (.inl ⟨cause, checked⟩) passes

theorem execute_of_not_stops {p : Pair σ} {s : Situation σ} (passes : ¬ p.Stops s)
    (admitted : p.admitted) : (p.execute s).1 = .ok () :=
  Classical.byContradiction fun bad => passes (.inr ⟨admitted, bad⟩)

end Pair

/-! ## The walk -/

/-- The situation to which pairs lead that do not stop. -/
def reached (ps : List (Pair σ)) (s : Situation σ) : Situation σ := ps.foldl (fun s p => p.after s) s

@[simp] theorem reached_nil (s : Situation σ) : reached [] s = s := rfl

@[simp] theorem reached_cons (p : Pair σ) (ps : List (Pair σ)) (s : Situation σ) :
    reached (p :: ps) s = reached ps (p.after s) := rfl

theorem reached_append (ps qs : List (Pair σ)) (s : Situation σ) :
    reached (ps ++ qs) s = reached qs (reached ps s) :=
  List.foldl_append

/-- Whether no pair of a list stops when its turn comes. -/
def Passed (ps : List (Pair σ)) (s : Situation σ) : Prop :=
  ∀ front p back, ps = front ++ p :: back → ¬ p.Stops (reached front s)

theorem passed_nil (s : Situation σ) : Passed [] s := by
  intro front p back eq
  exact absurd eq (by simp)

theorem passed_cons {p : Pair σ} {ps : List (Pair σ)} {s : Situation σ} :
    Passed (p :: ps) s ↔ ¬ p.Stops s ∧ Passed ps (p.after s) := by
  constructor
  · intro passed
    refine ⟨passed [] p ps rfl, fun front q back eq => ?_⟩
    exact passed (p :: front) q back (by rw [eq, List.cons_append])
  · rintro ⟨first, later⟩ front q back eq
    cases front with
    | nil =>
        obtain ⟨rfl, -⟩ := List.cons.inj eq
        exact first
    | cons p' front =>
        obtain ⟨rfl, rest⟩ := List.cons.inj eq
        exact later front q back rest

/-- Whether no pair stops can be found out, pair by pair. -/
instance : (ps : List (Pair σ)) → (s : Situation σ) → Decidable (Passed ps s)
  | [], s => isTrue (passed_nil s)
  | p :: ps, s =>
    have : Decidable (Passed ps (p.after s)) := instDecidablePassed ps (p.after s)
    decidable_of_iff (¬ p.Stops s ∧ Passed ps (p.after s)) passed_cons.symm

/-- Either every pair is passed, or there is a first one that stops. -/
theorem passed_or_stops (ps : List (Pair σ)) (s : Situation σ) :
    Passed ps s ∨ ∃ before p after, ps = before ++ p :: after ∧ Passed before s ∧
      p.Stops (reached before s) := by
  induction ps generalizing s with
  | nil => exact .inl (passed_nil s)
  | cons p ps ih =>
      by_cases stops : p.Stops s
      · exact .inr ⟨[], p, ps, rfl, passed_nil s, stops⟩
      · rcases ih (p.after s) with passed | ⟨before, q, after, rfl, passed, stop⟩
        · exact .inl (passed_cons.2 ⟨stops, passed⟩)
        · exact .inr ⟨p :: before, q, after, rfl, passed_cons.2 ⟨stops, passed⟩, stop⟩

/-- Goes on after a result that is no failure, and counts both parts. -/
def continueWith (first : Result × Situation σ) (next : Situation σ → Result × Situation σ) :
    Result × Situation σ :=
  match first with
  | (.error failure, s) => (.error failure, s)
  | (.endless, s) => (.endless, s)
  | (.ok stats, s) => ((next s).1.map (Stats.add stats), (next s).2)

/-- The walk over pairs: each has its turn until one fails. -/
def walk : List (Pair σ) → Situation σ → Result × Situation σ
  | [], s => (.ok Stats.zero, s)
  | p :: rest, s => continueWith (p.turn s) (walk rest)

theorem Stats.add_assoc (a b c : Stats) : (a.add b).add c = a.add (b.add c) := by
  simp [Stats.add, Nat.add_assoc]

theorem Stats.zero_add (stats : Stats) : Stats.zero.add stats = stats := by
  simp [Stats.add, Stats.zero]

theorem map_add_zero (result : Result) : result.map (Stats.add Stats.zero) = result := by
  cases result <;> simp [Outcome.map, Stats.zero_add]

theorem map_map_add (result : Result) (a b : Stats) :
    (result.map (Stats.add b)).map (Stats.add a) = result.map (Stats.add (a.add b)) := by
  cases result <;> simp [Outcome.map, Stats.add_assoc]

theorem continueWith_zero (s : Situation σ) (next : Situation σ → Result × Situation σ) :
    continueWith (.ok Stats.zero, s) next = next s := by
  rw [continueWith, map_add_zero]

theorem continueWith_continueWith (first : Result × Situation σ)
    (next last : Situation σ → Result × Situation σ) :
    continueWith (continueWith first next) last =
      continueWith first fun s => continueWith (next s) last := by
  obtain ⟨result, s⟩ := first
  cases result with
  | error failure => rfl
  | endless => rfl
  | ok stats =>
      rcases middle : next s with ⟨second, t⟩
      cases second with
      | error failure => simp [continueWith, middle, Outcome.map]
      | endless => simp [continueWith, middle, Outcome.map]
      | ok more =>
          have counted : (Outcome.ok more : Result).map (Stats.add stats) = .ok (stats.add more) := rfl
          simp only [continueWith, middle, counted, map_map_add]

/-- A walk over two lists goes on with the second where the first has led. -/
theorem walk_append (ps qs : List (Pair σ)) (s : Situation σ) :
    walk (ps ++ qs) s = continueWith (walk ps s) (walk qs) := by
  induction ps generalizing s with
  | nil => exact (continueWith_zero s (walk qs)).symm
  | cons p ps ih =>
      rw [List.cons_append, walk, walk, continueWith_continueWith]
      congr 1
      funext t
      exact ih t

/-- A walk under a context that lets nothing begin leaves everything as it is. -/
theorem situation_walk_of_check_error {s : Situation σ} {cause : Action.Error}
    (checked : s.context.check = .error cause) (ps : List (Pair σ)) : (walk ps s).2 = s := by
  cases ps with
  | nil => rfl
  | cons p rest =>
      rw [walk, Pair.turn_of_check_error checked]
      rfl

/-! ## Runs are walks -/

theorem add_executed (stats : Stats) : Stats.zero.addExecuted.add stats = stats.addExecuted := by
  simp [Stats.add, Stats.zero, Stats.addExecuted, Nat.add_comm]

theorem add_skipped (stats : Stats) : Stats.zero.addSkipped.add stats = stats.addSkipped := by
  simp [Stats.add, Stats.zero, Stats.addSkipped, Nat.add_comm]

theorem runEvents_eq_walk (index : Nat) (a : Executable σ) (place : Nat) (events : List Event)
    (s : Situation σ) : runEvents index a place events s = walk (eventPairs index a place events) s := by
  induction events generalizing place s with
  | nil => rfl
  | cons event rest ih =>
      have done : Stats.add Stats.zero.addExecuted = Stats.addExecuted := funext add_executed
      have left : Stats.add Stats.zero.addSkipped = Stats.addSkipped := funext add_skipped
      let p : Pair σ := ⟨index, a, place, event⟩
      have split : eventPairs index a place (event :: rest) =
          p :: eventPairs index a (place + 1) rest := rfl
      rw [split, walk, runEvents]
      cases checked : s.context.check with
      | error cause =>
          rw [Pair.turn_of_check_error checked]
          rfl
      | ok =>
          by_cases admitted : a.admits event = true
          · rw [Pair.turn_of_admitted (p := p) checked admitted, Pair.execute]
            dsimp only [p]
            rw [if_pos admitted]
            rcases a.execute event s with ⟨outcome, after⟩
            cases outcome with
            | error cause => rfl
            | endless => rfl
            | ok => simp only [Pair.conclude, continueWith, done, ih]
          · rw [Pair.turn_of_not_admitted (p := p) checked admitted]
            dsimp only
            rw [if_neg admitted]
            simp only [continueWith, left, ih]

theorem runActions_eq_walk (events : List Event) (index : Nat) (actions : List (Executable σ))
    (s : Situation σ) : runActions events index actions s = walk (pairsFrom events index actions) s := by
  induction actions generalizing index s with
  | nil => rfl
  | cons a rest ih =>
      rw [runActions, runEvents_eq_walk, pairsFrom_cons, walk_append]
      rcases walk (eventPairs index a 0 events) s with ⟨result, after⟩
      cases result with
      | error failure => rfl
      | endless => rfl
      | ok stats => simp only [continueWith, ih]

/-- **The run of actions for events is the walk over their pairs.** -/
theorem run_eq_walk (actions : List (Executable σ)) (events : List Event) (s : Situation σ) :
    run actions events s = walk (pairs actions events) s :=
  runActions_eq_walk events 0 actions s

/-! ## Where a walk ends -/

theorem turn_of_not_stops {p : Pair σ} {s : Situation σ} (passes : ¬ p.Stops s) :
    p.turn s =
      (.ok (if p.admitted then Stats.zero.addExecuted else Stats.zero.addSkipped), p.after s) := by
  have checked := Pair.check_of_not_stops passes
  by_cases admitted : p.admitted
  · have well := Pair.execute_of_not_stops passes admitted
    rw [Pair.turn_of_admitted checked admitted, Pair.after, if_pos admitted, if_pos admitted]
    rcases executed : p.execute s with ⟨outcome, after⟩
    rw [executed] at well
    cases well
    rfl
  · rw [Pair.turn_of_not_admitted checked admitted, Pair.after, if_neg admitted, if_neg admitted]

/-- The counts of pairs that are all passed. -/
def counts (ps : List (Pair σ)) : Stats :=
  ⟨(ps.filter Pair.admitted).length, (ps.filter fun p => !p.admitted).length⟩

theorem counts_cons (p : Pair σ) (ps : List (Pair σ)) :
    counts (p :: ps) =
      (if p.admitted then Stats.zero.addExecuted else Stats.zero.addSkipped).add (counts ps) := by
  cases admitted : p.admitted <;>
    simp [counts, admitted, Stats.add, Stats.zero, Stats.addExecuted, Stats.addSkipped, Nat.add_comm]

theorem counts_total (ps : List (Pair σ)) :
    (counts ps).executed + (counts ps).skipped = ps.length := by
  simp only [counts]
  induction ps with
  | nil => rfl
  | cons p ps ih => cases admitted : p.admitted <;> simp [admitted] <;> omega

/-- A walk in which no pair stops goes through, and counts every pair. -/
theorem walk_of_passed {ps : List (Pair σ)} {s : Situation σ} (passed : Passed ps s) :
    walk ps s = (.ok (counts ps), reached ps s) := by
  induction ps generalizing s with
  | nil => rfl
  | cons p ps ih =>
      obtain ⟨first, later⟩ := passed_cons.1 passed
      rw [walk, turn_of_not_stops first, continueWith, ih later, counts_cons]
      rfl

/-- What comes of a pair that stops the walk is no count. -/
theorem turn_of_stops {p : Pair σ} {s : Situation σ} (stops : p.Stops s) :
    (∃ failure, (p.turn s).1 = .error failure) ∨ (p.turn s).1 = .endless := by
  obtain ⟨cause, checked⟩ | ⟨admitted, bad⟩ := stops
  · rw [Pair.turn_of_check_error checked]
    exact .inl ⟨_, rfl⟩
  · cases checked : s.context.check with
    | error cause =>
        rw [Pair.turn_of_check_error checked]
        exact .inl ⟨_, rfl⟩
    | ok =>
        rw [Pair.turn_of_admitted checked admitted]
        rcases executed : p.execute s with ⟨outcome, last⟩
        rw [executed] at bad
        cases outcome with
        | ok => exact absurd rfl bad
        | error cause => exact .inl ⟨_, rfl⟩
        | endless => exact .inr rfl

/-- A walk ends at the first pair that stops, with what comes of that pair alone. -/
theorem walk_of_stops {before after : List (Pair σ)} {p : Pair σ} {s : Situation σ}
    (passed : Passed before s) (stops : p.Stops (reached before s)) :
    walk (before ++ p :: after) s = p.turn (reached before s) := by
  have ends := turn_of_stops stops
  rw [walk_append, walk_of_passed passed, continueWith, walk]
  rcases turned : p.turn (reached before s) with ⟨result, last⟩
  rw [turned] at ends
  obtain ⟨failure, failed⟩ | endless := ends
  · cases failed
    rfl
  · cases endless
    rfl

end Responder.Dispatch
