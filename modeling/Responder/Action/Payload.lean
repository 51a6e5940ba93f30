/-
# Responder.Action.Payload -- bodies of webhook requests

Rendered texts stand in the bodies as JSON strings, so nothing in an event can
change the shape of a body.
-/
import Responder.Action.Basic
import Responder.Json.Printer

namespace Responder.Action

set_option autoImplicit false

/-- The body of a chat message. -/
def noticeBody (text : String) : Json := Json.ofMembers [("text", .string text)]

/-- A document of one paragraph. -/
def paragraph (text : String) : Json :=
  let leaf := Json.ofMembers [("type", .string "text"), ("text", .string text)]
  let block := Json.ofMembers [("type", .string "paragraph"), ("content", .array [leaf])]
  Json.ofMembers [("type", .string "doc"), ("version", .number (.integer 1 (by decide))),
    ("content", .array [block])]

/-- The body of a new issue. -/
def issueBody (projectKey summary description : String) : Json :=
  Json.ofMembers [("project", Json.ofMembers [("key", .string projectKey)]),
    ("summary", .string summary), ("description", paragraph description),
    ("issuetype", Json.ofMembers [("name", .string issueType)])]

end Responder.Action
