/-
# Responder.Runbook.File -- runbooks from files
-/
import Responder.Runbook.Basic
import Responder.Runbook.Config

namespace Responder.Runbook

set_option autoImplicit false

/-- Reads the text of a file. -/
abbrev ReadFile := String → Except Host.Fault String

/-- The runbook that a text denotes. -/
def ofText (secrets : Secrets) (text : String) : Except Error Runbook :=
  match Config.parse? text with
  | none => .error (.parse text)
  | some config => build secrets config.entries

/-- The runbook in a file. -/
def ofFile (read : ReadFile) (secrets : Secrets) (path : String) : Except Error Runbook :=
  match read path with
  | .error fault => .error (.read path fault)
  | .ok text => ofText secrets text

variable {σ : Type}

/-- Carries out the runbook in a file for events: nothing is done unless the
whole runbook is right. -/
def runFile (services : Host.Services σ) (read : ReadFile) (secrets : Secrets) (path : String)
    (events : List Event) (s : Action.Situation σ) :
    Action.Outcome Error Dispatch.Stats × Action.Situation σ :=
  match ofFile read secrets path with
  | .error e => (.error e, s)
  | .ok runbook => runbook.run services events s

end Responder.Runbook
