/-
# Responder.Dispatch.Basic -- carrying out actions for events

Actions are taken in order, and for each action all events in order; the first
failure ends the run.  Before every pair of an action and an event the context
is checked, even when the action's filter does not admit the event.  An action
here is anything that can be executed: what it does to the world around it is
its own affair, and it may cancel the context.
-/
import Responder.Action.Situation

namespace Responder.Dispatch

set_option autoImplicit false

open Responder.Action (Situation Outcome Kind)

/-- An action: its kind, and what executing it for an event does. -/
structure Executable (σ : Type) where
  kind : Kind
  admits : Event → Bool
  execute : Event → Situation σ → Outcome Action.Error Unit × Situation σ

/-- Counts of a run: executions that went well, and pairs that a filter left out. -/
structure Stats where
  executed : Nat
  skipped : Nat
  deriving DecidableEq

namespace Stats

/-- Nothing done yet. -/
def zero : Stats := ⟨0, 0⟩

/-- One execution more. -/
def addExecuted (s : Stats) : Stats := { s with executed := s.executed + 1 }

/-- One pair left out more. -/
def addSkipped (s : Stats) : Stats := { s with skipped := s.skipped + 1 }

/-- Counts taken together. -/
def add (s t : Stats) : Stats := ⟨s.executed + t.executed, s.skipped + t.skipped⟩

end Stats

/-- The pair at which a run failed, and why. -/
structure Failure where
  action : Nat
  kind : Kind
  event : Nat
  cause : Action.Error
  deriving DecidableEq

/-- A failure in words. -/
def Failure.message (f : Failure) : String :=
  "action #" ++ toString f.action ++ " (" ++ f.kind.name ++ ") failed on event #" ++
    toString f.event ++ ": " ++ f.cause.message

/-- What comes of a run. -/
abbrev Result := Outcome Failure Stats

/-- Carries out the action at `index` for events, of which the first is at `place`. -/
def runEvents {σ : Type} (index : Nat) (a : Executable σ) :
    Nat → List Event → Situation σ → Result × Situation σ
  | _, [], s => (.ok Stats.zero, s)
  | place, event :: rest, s =>
    match s.context.check with
    | .error cause => (.error ⟨index, a.kind, place, cause⟩, s)
    | .ok () =>
      if a.admits event then
        match a.execute event s with
        | (.error cause, after) => (.error ⟨index, a.kind, place, cause⟩, after)
        | (.endless, after) => (.endless, after)
        | (.ok (), after) =>
          let (result, last) := runEvents index a (place + 1) rest after
          (result.map Stats.addExecuted, last)
      else
        let (result, last) := runEvents index a (place + 1) rest s
        (result.map Stats.addSkipped, last)

/-- Carries out actions, of which the first is at `index`, for all events. -/
def runActions {σ : Type} (events : List Event) :
    Nat → List (Executable σ) → Situation σ → Result × Situation σ
  | _, [], s => (.ok Stats.zero, s)
  | index, a :: rest, s =>
    match runEvents index a 0 events s with
    | (.error failure, after) => (.error failure, after)
    | (.endless, after) => (.endless, after)
    | (.ok stats, after) =>
      let (result, last) := runActions events (index + 1) rest after
      (result.map (Stats.add stats), last)

/-- Carries out all actions for all events. -/
def run {σ : Type} (actions : List (Executable σ)) (events : List Event) (s : Situation σ) :
    Result × Situation σ :=
  runActions events 0 actions s

end Responder.Dispatch
