/-
# Responder.Action.Error -- kinds of action and how an action can fail
-/
import Responder.Host.Fault
import Responder.Host.Status
import Responder.Template.Basic

namespace Responder.Action

set_option autoImplicit false

/-- The kinds of action. -/
inductive Kind where
  /-- A message to a chat webhook. -/
  | slack
  /-- A new issue through a tracker's webhook. -/
  | jira
  /-- A local program. -/
  | exec
  deriving DecidableEq, Repr

/-- All kinds, in the order in which their sections are checked. -/
def Kind.all : List Kind := [.slack, .jira, .exec]

/-- A kind's name. -/
def Kind.name : Kind → String
  | .slack => "slack"
  | .jira => "jira"
  | .exec => "exec"

/-- The kind of a name, which must match exactly. -/
def Kind.ofName? (name : String) : Option Kind := Kind.all.find? (·.name = name)

/-- How carrying out an action for one event can fail. -/
inductive Error where
  | render (error : Template.Error)
  /-- A request to this URL got no response. -/
  | http (kind : Kind) (url : String)
  /-- A request got a response with a failure status. -/
  | status (kind : Kind) (code : Nat) (body : String)
  | spawn (path : String) (cause : Host.Fault)
  | stdin (path : String) (cause : Host.Fault)
  | wait (path : String) (cause : Host.Fault)
  /-- A program ended badly. -/
  | exit (path : String) (status : Host.ExitStatus)
  | cancelled
  | deadlineExceeded
  deriving DecidableEq

/-- An error in words. -/
def Error.message : Error → String
  | .render error => error.message
  | .http kind url => kind.name ++ " post: error sending request for url (" ++ url ++ ")"
  | .status kind code body =>
    kind.name ++ " post failed: " ++ Host.statusLine code ++ " - " ++ body
  | .spawn path cause => "failed to spawn " ++ path ++ ": " ++ cause.message
  | .stdin path cause => "failed to write event record to " ++ path ++ ": " ++ cause.message
  | .wait path cause => "failed waiting for " ++ path ++ ": " ++ cause.message
  | .exit path s => path ++ " " ++ s.message
  | .cancelled => "dispatch cancelled"
  | .deadlineExceeded => "dispatch deadline exceeded"

end Responder.Action
