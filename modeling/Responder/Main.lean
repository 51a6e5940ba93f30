/-
# Responder.Main -- the command line

Reads what a command line may need, leaves all decisions to `CommandLine.run`,
and tells how it ended.  This program has no network and starts no programs, so
its host is an isolated one.
-/
import Responder.CommandLine.Run
import Responder.Host.Isolated

namespace Responder.Main

set_option autoImplicit false

open CommandLine (Environment Options Input)

/-- What kept a file from being read. -/
def fault : IO.Error → Host.Fault
  | .noFileOrDirectory .. => .notFound
  | .permissionDenied .. => .permissionDenied
  | e => .other (toString e)

/-- The text of a file. -/
def readText (path : String) : IO (Except Host.Fault String) := do
  match ← (IO.FS.readBinFile path).toBaseIO with
  | .error e => return .error (fault e)
  | .ok bytes =>
    match String.fromUTF8? bytes with
    | some text => return .ok text
    | none => return .error .notText

/-- The variables of these names that are set. -/
def readVariables (names : List String) : IO Environment :=
  names.filterMapM fun name => do return (← IO.getEnv name).map (name, ·)

/-- The names of the secrets that a runbook asks for. -/
def secretNames (read : Runbook.ReadFile) (paths : List String) : List String :=
  paths.flatMap fun path =>
    match (read path).toOption.bind Runbook.Config.parse? with
    | some config => config.secretNames
    | none => []

/-- Carries out a command line. -/
def run (words : List String) : IO UInt32 := do
  let options := (CommandLine.parse words).toOption.getD .none
  let env ← readVariables [Input.config.variable, Input.report.variable]
  let paths := [Input.config, Input.report].filterMap fun input =>
    (CommandLine.path options env input).toOption
  let files ← paths.mapM fun path => do return (path, ← readText path)
  let read : Runbook.ReadFile := fun path => (files.lookup path).getD (.error .notFound)
  let env := env ++ (← readVariables (secretNames read paths))
  let services : Host.Services Unit := Host.isolated (fun _ => .error .notFound) 0
  match CommandLine.parse words with
  | .error stop => (← IO.getStderr).putStrLn stop.text
  | .ok _ => pure ()
  match (CommandLine.run .elided services read env words ⟨.unlimited, ()⟩).1 with
  | none => return 1
  | some exit =>
    if let some message := exit.message then (← IO.getStderr).putStrLn message
    return exit.code.toUInt32

end Responder.Main

/-- The program. -/
def main (words : List String) : IO UInt32 := Responder.Main.run words
