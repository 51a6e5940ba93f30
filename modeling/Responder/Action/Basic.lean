/-
# Responder.Action.Basic -- what can be done about an event

An action is complete: its address is a URL of the web, its templates are
compiled and its token may stand in a header.  So all that is left to fail is
the data of an event and the world.
-/
import Responder.Action.Error
import Responder.Url.Basic

namespace Responder

set_option autoImplicit false

namespace Action

/-- A message to a chat. -/
structure Notice where
  url : Url
  message : Template

/-- A new issue in a tracker. -/
structure Issue where
  url : Url
  summary : Template
  description : Template
  projectKey : String
  /-- What the tracker's webhook wants to be shown. -/
  token : String

/-- A local program, and a template for each of its arguments. -/
structure Program where
  path : String
  args : List Template

/-- The type of every new issue. -/
def issueType : String := "Bug"

end Action

/-- An action that is ready to be carried out. -/
inductive Action where
  | slack (notice : Action.Notice)
  | jira (issue : Action.Issue)
  | exec (program : Action.Program)

namespace Action

/-- The kind of an action. -/
def kind : Action → Kind
  | .slack _ => .slack
  | .jira _ => .jira
  | .exec _ => .exec

/-- An action in words; the token is not shown. -/
def describe : Action → String
  | .slack notice => "Post notification to " ++ notice.url.text
  | .jira issue =>
    "Create " ++ issueType ++ " issue in " ++ issue.projectKey ++ " via " ++ issue.url.text
  | .exec program => "Run " ++ program.path

end Action

end Responder
