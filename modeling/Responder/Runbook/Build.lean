/-
# Responder.Runbook.Build -- from an entry to an action

All checks are made here, in a fixed order, and the first defect is reported:
kind and sections, then the section's fields one by one, and last the pattern.
-/
import Responder.Action.Basic
import Responder.Action.Filter
import Responder.Runbook.Entry
import Responder.Runbook.Secret

namespace Responder.Runbook

set_option autoImplicit false

/-- An action and the filter of its entry. -/
structure Step where
  action : Action
  filter : Option Action.Filter

namespace Step

/-- Whether a step is for an event. -/
def admits (step : Step) (event : Event) : Bool :=
  match step.filter with
  | some filter => filter.admits event
  | none => true

/-- A step in words. -/
def describe (step : Step) : String :=
  match step.filter with
  | some filter => step.action.describe ++ " (cre id ~ /" ++ filter.source ++ "/)"
  | none => step.action.describe

end Step

/-- A text that may not be empty. -/
def required (field : Field) (text : String) : Except Defect Unit :=
  if text = "" then .error (.missingField field) else .ok ()

/-- The address of a webhook. -/
def address (field : Field) (text : String) : Except Defect Url := do
  required field text
  match Url.parse text with
  | .ok (.web url) => return url
  | .ok (.other scheme) => throw (.unsupportedScheme field scheme)
  | .error cause => throw (.invalidUrl field cause)

/-- The template of a field, under a name for its errors. -/
def template (field : Field) (name source : String) : Except Defect Template :=
  (Template.compile name source).mapError (.template field)

namespace SlackSection

/-- The message that a section describes. -/
def build (settings : SlackSection) : Except Defect Action.Notice := do
  let url ← address .slackUrl settings.webhookUrl
  required .slackMessage settings.messageTemplate
  return ⟨url, ← template .slackMessage "slack" settings.messageTemplate⟩

end SlackSection

namespace JiraSection

/-- The token of a section. -/
def token (settings : JiraSection) (secrets : Secrets) : Except Defect String :=
  match secrets.resolve settings.secret settings.secretEnv with
  | none => .error .missingSecret
  | some secret => if isHeaderValue secret then .ok secret else .error .invalidSecret

/-- The issue that a section describes. -/
def build (settings : JiraSection) (secrets : Secrets) : Except Defect Action.Issue := do
  let url ← address .jiraUrl settings.webhookUrl
  required .jiraSummary settings.summaryTemplate
  required .jiraProject settings.projectKey
  let summary ← template .jiraSummary "jira-summary" settings.summaryTemplate
  let description ← template .jiraDescription "jira-desc" settings.descriptionTemplate
  return ⟨url, summary, description, settings.projectKey, ← settings.token secrets⟩

end JiraSection

namespace ExecSection

/-- The templates of arguments, of which the first is at `index`. -/
def buildArgs : Nat → List String → Except Defect (List Template)
  | _, [] => .ok []
  | index, source :: rest => do
    let first ← template (.execArg index) ("exec-arg[" ++ toString index ++ "]") source
    return first :: (← buildArgs (index + 1) rest)

/-- The program that a section describes. -/
def build (settings : ExecSection) : Except Defect Action.Program := do
  required .execPath settings.path
  return ⟨settings.path, ← buildArgs 0 settings.args⟩

end ExecSection

/-- The action that a section describes. -/
def Section.build (secrets : Secrets) : Section → Except Defect Action
  | .slack settings => return .slack (← settings.build)
  | .jira settings => return .jira (← settings.build secrets)
  | .exec settings => return .exec (← settings.build)

/-- The filter of a pattern, if there is one. -/
def filter : Option String → Except Defect (Option Action.Filter)
  | none => .ok none
  | some source =>
    match Action.Filter.ofSource? source with
    | some filter => .ok (some filter)
    | none => .error (.invalidPattern source)

/-- The step that an entry describes. -/
def Entry.build (secrets : Secrets) (entry : Entry) : Except Defect Step := do
  let action ← (← entry.content).build secrets
  return ⟨action, ← filter entry.pattern?⟩

end Responder.Runbook
