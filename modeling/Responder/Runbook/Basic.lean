/-
# Responder.Runbook.Basic -- runbooks, built as a whole and run

A runbook is built only if each of its entries is; so a run that begins can
fail only on events and the world.
-/
import Responder.Action.Execute
import Responder.Dispatch.Basic
import Responder.Runbook.Build

namespace Responder

set_option autoImplicit false

/-- Actions with their filters, in order. -/
structure Runbook where
  steps : List Runbook.Step

namespace Runbook

open Responder.Action (Situation Outcome)

/-- Why a runbook cannot be read, built or run. -/
inductive Error where
  | read (path : String) (cause : Host.Fault)
  /-- The text is no list of entries. -/
  | parse (text : String)
  /-- The entry at this place is no action. -/
  | entry (index : Nat) (cause : Defect)
  | dispatch (failure : Dispatch.Failure)
  deriving DecidableEq

/-- An error in words. -/
def Error.message (wording : Text.Wording) : Error → String
  | .read path cause => "failed to read runbook config " ++ path ++ ": " ++ cause.message
  | .parse text => "failed to parse runbook config: " ++ wording.yaml text
  | .entry index cause => "action #" ++ toString index ++ ": " ++ cause.message wording
  | .dispatch failure => failure.message

/-- The steps of entries, of which the first is at `index`. -/
def buildSteps (secrets : Secrets) : Nat → List Entry → Except Error (List Step)
  | _, [] => .ok []
  | index, first :: rest =>
    match first.build secrets with
    | .error defect => .error (.entry index defect)
    | .ok step => do return step :: (← buildSteps secrets (index + 1) rest)

/-- The runbook of a list of entries; the first entry that is no action is reported. -/
def build (secrets : Secrets) (entries : List Entry) : Except Error Runbook :=
  return ⟨← buildSteps secrets 0 entries⟩

variable {σ : Type}

/-- A step as something to execute with a host's services. -/
def Step.executable (services : Host.Services σ) (step : Step) : Dispatch.Executable σ :=
  ⟨step.action.kind, step.admits, step.action.execute services⟩

/-- Carries out a runbook for events. -/
def run (services : Host.Services σ) (runbook : Runbook) (events : List Event) (s : Situation σ) :
    Outcome Error Dispatch.Stats × Situation σ :=
  let (result, after) :=
    Dispatch.run (runbook.steps.map (Step.executable services)) events s
  (result.mapError .dispatch, after)

end Runbook

end Responder
