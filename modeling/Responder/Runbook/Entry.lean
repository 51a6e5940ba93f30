/-
# Responder.Runbook.Entry -- entries of a runbook as they are written

An entry names the kind of its action and has a section for it.  Nothing is
checked here but that kind and sections go together; missing texts are empty.
-/
import Responder.Action.Error
import Responder.Text.Wording
import Responder.Url.Host

namespace Responder.Runbook

set_option autoImplicit false

/-- The settings of a chat message. -/
structure SlackSection where
  webhookUrl : String
  messageTemplate : String
  deriving DecidableEq

/-- The settings of a new issue. -/
structure JiraSection where
  webhookUrl : String
  /-- The token itself. -/
  secret : Option String
  /-- The name under which the token is found. -/
  secretEnv : Option String
  summaryTemplate : String
  descriptionTemplate : String
  projectKey : String
  deriving DecidableEq

/-- The settings of a program. -/
structure ExecSection where
  path : String
  args : List String
  deriving DecidableEq

/-- An entry of a runbook. -/
structure Entry where
  /-- The name of the action's kind. -/
  type : String
  /-- A pattern for the ids of the rules whose events are meant. -/
  regex : Option String
  slack : Option SlackSection
  jira : Option JiraSection
  exec : Option ExecSection
  deriving DecidableEq

/-- The section of an action of some kind. -/
inductive Section where
  | slack (settings : SlackSection)
  | jira (settings : JiraSection)
  | exec (settings : ExecSection)
  deriving DecidableEq

/-- The kind that a section is for. -/
def Section.kind : Section → Action.Kind
  | .slack _ => .slack
  | .jira _ => .jira
  | .exec _ => .exec

/-- The fields of sections that can be at fault. -/
inductive Field where
  | slackUrl
  | slackMessage
  | jiraUrl
  | jiraSummary
  | jiraDescription
  | jiraProject
  | execPath
  | execArg (index : Nat)
  deriving DecidableEq

/-- A field's name in messages. -/
def Field.name : Field → String
  | .slackUrl => "slack.webhook_url"
  | .slackMessage => "slack.message_template"
  | .jiraUrl => "jira.webhook_url"
  | .jiraSummary => "jira.summary_template"
  | .jiraDescription => "jira.description_template"
  | .jiraProject => "jira.project_key"
  | .execPath => "exec.path"
  | .execArg index => "exec.args[" ++ toString index ++ "]"

/-- Why an entry is no action. -/
inductive Defect where
  | unknownType (name : String)
  | missingSection (kind : Action.Kind)
  /-- There is a section for another kind. -/
  | conflictingSection (kind extra : Action.Kind)
  | missingField (field : Field)
  | invalidUrl (field : Field) (cause : Url.Error)
  | unsupportedScheme (field : Field) (scheme : String)
  | missingSecret
  | invalidSecret
  | invalidPattern (source : String)
  | template (field : Field) (cause : Template.Error)
  deriving DecidableEq

/-- A defect in words. -/
def Defect.message (wording : Text.Wording) : Defect → String
  | .unknownType name => "unknown action type " ++ Text.quoted name
  | .missingSection kind => "missing " ++ kind.name ++ " section"
  | .conflictingSection kind extra =>
    "unexpected " ++ extra.name ++ " section in " ++ kind.name ++ " action"
  | .missingField field => field.name ++ " is required"
  | .invalidUrl field cause => field.name ++ " is not a valid URL: " ++ cause.message
  | .unsupportedScheme field scheme =>
    field.name ++ " must use http or https, got " ++ Text.quoted scheme
  | .missingSecret => "jira secret missing; set either 'secret' or 'secret_env'"
  | .invalidSecret => "jira secret is not a valid header value: failed to parse header value"
  | .invalidPattern source => "invalid regex: " ++ wording.pattern source
  | .template field cause => "invalid " ++ field.name ++ ": " ++ cause.message

/-- The kind of a name. -/
def kindOf (name : String) : Except Defect Action.Kind :=
  match Action.Kind.ofName? name with
  | some kind => .ok kind
  | none => .error (.unknownType name)

namespace Entry

/-- The section for a kind. -/
def sectionOf? (entry : Entry) : Action.Kind → Option Section
  | .slack => entry.slack.map .slack
  | .jira => entry.jira.map .jira
  | .exec => entry.exec.map .exec

/-- The one section of an entry, which must be for the entry's kind. -/
def content (entry : Entry) : Except Defect Section := do
  let kind ← kindOf entry.type
  match Action.Kind.all.find? fun other => (entry.sectionOf? other).isSome && other != kind with
  | some extra => .error (.conflictingSection kind extra)
  | none =>
    match entry.sectionOf? kind with
    | some settings => .ok settings
    | none => .error (.missingSection kind)

/-- The pattern, if there is one and it is not empty. -/
def pattern? (entry : Entry) : Option String := entry.regex.filter (· ≠ "")

end Entry

end Responder.Runbook
