/-
# Responder.Runbook.Config -- runbooks as written in YAML

A runbook's text is a mapping with a sequence of entries.  Keys that are not
known are passed over, known ones may not be repeated, and what is missing is
empty.  Texts keep the words of plain scalars, so that `5` and `true` are texts
too; only where something may be absent does a null say that it is.
-/
import Responder.Json.Basic
import Responder.Runbook.Entry
import Responder.Text.Blank
import Responder.Yaml.Node

namespace Responder.Runbook

set_option autoImplicit false

/-- The entries of a runbook, in order. -/
structure Config where
  entries : List Entry
  deriving DecidableEq

namespace Config

open Yaml (Document Node Visit)

/-! ## Reading -/

/-- The words for null. -/
def nullWords : List String := ["null", "Null", "NULL", "~"]

/-- The tag of a null. -/
def nullTag : String := "tag:yaml.org,2002:null"

variable {α : Type}

/-- A text. -/
def readText (d : Document) (node : Node) : Visit String := do
  match ← d.resolve node with
  | .scalar text _ _ => return text
  | _ => failure

/-- Something that may be absent: only a plain scalar can say so. -/
def readOptional (d : Document) (read : Node → Visit α) (node : Node) : Visit (Option α) := do
  let node ← d.resolve node
  match node with
  | .scalar text true none =>
    if text = "" ∨ text ∈ nullWords then return none else some <$> read node
  | .scalar text true (some tag) =>
    if tag = nullTag then
      if text ∈ nullWords then return none else failure
    else some <$> read node
  | _ => some <$> read node

/-- A list, which may be left empty. -/
def readList (d : Document) (read : Node → Visit α) (node : Node) : Visit (List α) := do
  match ← d.resolve node with
  | .sequence items => items.mapM read
  | .scalar "" true _ => return []
  | _ => failure

/-- The values of a mapping by key; the mapping may be left empty. -/
def readMembers (d : Document) (node : Node) : Visit (List (String × Node)) := do
  match ← d.resolve node with
  | .mapping pairs => pairs.mapM fun (key, value) => return (← readText d key, value)
  | .scalar "" true _ => return []
  | _ => failure

/-- The value of a key that may be missing but not repeated. -/
def readMember (members : List (String × Node)) (key : String) (missing : α)
    (read : Node → Visit α) : Visit α :=
  match members.filter (·.1 = key) with
  | [] => return missing
  | [(_, value)] => read value
  | _ => failure

/-- The settings of a chat message. -/
def readSlack (d : Document) (node : Node) : Visit SlackSection := do
  let m ← readMembers d node
  return ⟨← readMember m "webhook_url" "" (readText d), ← readMember m "message_template" "" (readText d)⟩

/-- The settings of a new issue. -/
def readJira (d : Document) (node : Node) : Visit JiraSection := do
  let m ← readMembers d node
  return {
    webhookUrl := ← readMember m "webhook_url" "" (readText d)
    secret := ← readMember m "secret" none (readOptional d (readText d))
    secretEnv := ← readMember m "secret_env" none (readOptional d (readText d))
    summaryTemplate := ← readMember m "summary_template" "" (readText d)
    descriptionTemplate := ← readMember m "description_template" "" (readText d)
    projectKey := ← readMember m "project_key" "" (readText d) }

/-- The settings of a program. -/
def readExec (d : Document) (node : Node) : Visit ExecSection := do
  let m ← readMembers d node
  return ⟨← readMember m "path" "" (readText d), ← readMember m "args" [] (readList d (readText d))⟩

/-- An entry. -/
def readEntry (d : Document) (node : Node) : Visit Entry := do
  let m ← readMembers d node
  return {
    type := ← readMember m "type" "" (readText d)
    regex := ← readMember m "regex" none (readOptional d (readText d))
    slack := ← readMember m "slack" none (readOptional d (readSlack d))
    jira := ← readMember m "jira" none (readOptional d (readJira d))
    exec := ← readMember m "exec" none (readOptional d (readExec d)) }

/-- A runbook. -/
def readConfig (d : Document) (node : Node) : Visit Config := do
  let m ← readMembers d node
  return ⟨← readMember m "actions" [] (readList d (readEntry d))⟩

/-- The runbook of a document. -/
def ofDocument? (d : Document) : Option Config :=
  match d.root with
  | none => some ⟨[]⟩
  | some root => d.visit (readConfig d root)

/-- The runbook that a text denotes: none when it is no runbook.  A blank text
has no entries. -/
def parse? (text : String) : Option Config :=
  if text.toList.all Text.isBlank then some ⟨[]⟩
  else (Document.parse? text).bind ofDocument?

/-- The names under which a runbook's entries look for secrets. -/
def secretNames (config : Config) : List String :=
  config.entries.filterMap fun entry => entry.jira.bind JiraSection.secretEnv

/-! ## As JSON -/

/-- A member that is left out when it is absent. -/
def optionalMember (key : String) (value : Option Json) : List (String × Json) :=
  (value.map (key, ·)).toList

/-- A section as JSON. -/
def sectionJson : Section → Json
  | .slack s =>
    Json.ofMembers [("webhook_url", .string s.webhookUrl),
      ("message_template", .string s.messageTemplate)]
  | .jira s =>
    Json.ofMembers ([("webhook_url", .string s.webhookUrl),
      ("summary_template", .string s.summaryTemplate),
      ("description_template", .string s.descriptionTemplate),
      ("project_key", .string s.projectKey)] ++
      optionalMember "secret" (s.secret.map .string) ++
      optionalMember "secret_env" (s.secretEnv.map .string))
  | .exec s =>
    Json.ofMembers [("path", .string s.path), ("args", .array (s.args.map .string))]

/-- An entry as JSON. -/
def entryJson (entry : Entry) : Json :=
  Json.ofMembers <| ("type", .string entry.type) ::
    (optionalMember "regex" (entry.regex.map .string) ++
      Action.Kind.all.flatMap fun kind =>
        optionalMember kind.name ((entry.sectionOf? kind).map sectionJson))

/-- A runbook as JSON. -/
def json (config : Config) : Json :=
  Json.ofMembers [("actions", .array (config.entries.map entryJson))]

end Config

end Responder.Runbook
