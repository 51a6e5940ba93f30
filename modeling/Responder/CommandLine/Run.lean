/-
# Responder.CommandLine.Run -- what a command line does

The report is read first and the runbook second; only when both are right is
anything done.  Whatever goes wrong is told in one message, and the exit code
says whether all went well.
-/
import Responder.CommandLine.Options
import Responder.Runbook.File

namespace Responder.CommandLine

set_option autoImplicit false

open Responder.Action (Situation Outcome)

/-- The variables of an environment. -/
abbrev Environment := List (String × String)

/-- The value of a variable. -/
def Environment.get? (env : Environment) (name : String) : Option String := env.lookup name

/-- The inputs that a command line names. -/
inductive Input where
  | config
  | report
  deriving DecidableEq

/-- What an input is. -/
def Input.what : Input → String
  | .config => "runbook config"
  | .report => "detection report"

/-- The long name of an input's option. -/
def Input.optionName : Input → String
  | .config => "config"
  | .report => "report"

/-- The variable that names an input when no option does. -/
def Input.variable : Input → String
  | .config => "PREQ_RUNBOOK"
  | .report => "PREQ_REPORT"

/-- The path that an option gives for an input. -/
def Options.input (o : Options) : Input → Option String
  | .config => o.config
  | .report => o.report

/-- How carrying out a command line can fail. -/
inductive Error where
  | missingPath (input : Input)
  | readReport (path : String) (cause : Host.Fault)
  | report (cause : Event.Error)
  | runbook (cause : Runbook.Error)
  deriving DecidableEq

/-- An error in words. -/
def Error.message (wording : Text.Wording) : Error → String
  | .missingPath input =>
    "no " ++ input.what ++ " given; pass --" ++ input.optionName ++ " or set " ++ input.variable
  | .readReport path cause => "failed to read report " ++ path ++ ": " ++ cause.message
  | .report cause => "invalid report: " ++ cause.message wording
  | .runbook cause => cause.message wording

/-- The path of an input: from its option, or else from its variable, where
empty counts as missing. -/
def path (o : Options) (env : Environment) (input : Input) : Except Error String :=
  match (o.input input).or ((env.get? input.variable).filter (· ≠ "")) with
  | some path => .ok path
  | none => .error (.missingPath input)

/-- The events of the report in a file. -/
def readReport (read : Runbook.ReadFile) (path : String) : Except Error (List Event) :=
  match read path with
  | .error fault => .error (.readReport path fault)
  | .ok text => (Event.parseReport text).mapError .report

/-- The path of the runbook and the events of the report. -/
def inputs (o : Options) (env : Environment) (read : Runbook.ReadFile) :
    Except Error (String × List Event) := do
  let config ← path o env .config
  let report ← path o env .report
  return (config, ← readReport read report)

variable {σ : Type}

/-- Carries out what options ask for. -/
def execute (services : Host.Services σ) (read : Runbook.ReadFile) (env : Environment)
    (o : Options) (s : Situation σ) : Outcome Error Dispatch.Stats × Situation σ :=
  match inputs o env read with
  | .error e => (.error e, s)
  | .ok (config, events) =>
    let (result, after) := Runbook.runFile services read env.get? config events s
    (result.mapError .runbook, after)

/-- How a command line ends. -/
structure Exit where
  code : Nat
  /-- What is told on failure. -/
  message : Option String
  deriving DecidableEq

/-- The program's name. -/
def programName : String := "preq-runbook"

/-- The end for words that are not carried out. -/
def Stop.exit : Stop → Exit
  | .help | .version => ⟨0, none⟩
  | .misuse => ⟨2, none⟩

/-- The end for an error. -/
def Error.exit (wording : Text.Wording) (e : Error) : Exit :=
  ⟨1, some (programName ++ ": " ++ e.message wording)⟩

/-- What is shown instead of carrying words out. -/
def Stop.text : Stop → String
  | .version => programName
  | .help | .misuse =>
    "Usage: " ++ programName ++ " [--config PATH] [--report PATH] [--log-level LEVEL]"

/-- Carries out a command line: none if it never ends. -/
def run (wording : Text.Wording) (services : Host.Services σ) (read : Runbook.ReadFile)
    (env : Environment) (words : List String) (s : Situation σ) : Option Exit × Situation σ :=
  match parse words with
  | .error stop => (some stop.exit, s)
  | .ok o =>
    match execute services read env o s with
    | (.ok _, after) => (some ⟨0, none⟩, after)
    | (.error e, after) => (some (e.exit wording), after)
    | (.endless, after) => (none, after)

end Responder.CommandLine
