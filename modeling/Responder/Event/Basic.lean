/-
# Responder.Event.Basic -- detected events and the report that lists them

An event is a JSON object whose shape varies from rule to rule.  A report is a
JSON array of events.  The only thing asked of every event is the id of the
reliability rule (CRE) that raised it, which may be missing.
-/
import Responder.Json.Parser
import Responder.Text.Wording

namespace Responder

set_option autoImplicit false

/-- One detected event: the members of a JSON object. -/
structure Event where
  members : Json.Members

namespace Event

/-- Why JSON text or a value is no event or no report. -/
inductive Error where
  | notAnObject (shape : Json.Shape)
  | notAReport (shape : Json.Shape)
  /-- The text is not JSON. -/
  | malformed (text : String)
  deriving DecidableEq

/-- An error in words. -/
def Error.message (wording : Text.Wording) : Error → String
  | .notAnObject shape => "Event record must be a JSON object, got " ++ shape.name
  | .notAReport shape => "Report must be a JSON array of event records, got " ++ shape.name
  | .malformed text => "Serialization error: " ++ wording.json text

/-- The event as a JSON value. -/
def json (e : Event) : Json := .object e.members

/-- A field of the event itself. -/
def get? (e : Event) (name : String) : Option Json := e.json.field? name

/-- The string in a field of a value, if there is one. -/
def stringField? (name : String) (value : Json) : Option String :=
  (value.field? name).bind Json.string?

/-- The id of the rule that raised the event: `cre.id`, then `cre.ID`, then
`id`, whichever first is a string; empty when none is. -/
def ruleId (e : Event) : String :=
  let cre := (e.get? "cre").getD .null
  ((stringField? "id" cre).or ((stringField? "ID" cre).or (stringField? "id" e.json))).getD ""

/-- The event that a value is. -/
def ofJson : Json → Except Error Event
  | .object members => .ok ⟨members⟩
  | value => .error (.notAnObject value.shape)

/-- The event that a text denotes. -/
def ofText (text : String) : Except Error Event :=
  match Json.parse? text with
  | some value => ofJson value
  | none => .error (.malformed text)

/-- The event that a text denotes, read as an object from its first word on: no other value is made
on the way, so text of another shape is malformed. -/
def read? (text : String) : Option Event := do
  match ← Json.Token.scan text.toList with
  | .openObject :: words =>
    match ← (Json.Reader.run (.firstKey []) words).bind Json.Reader.result? with
    | .object members => return ⟨members⟩
    | _ => none
  | _ => none

/-- The events that a report lists; the first item that is no event is reported. -/
def parseReport (text : String) : Except Error (List Event) :=
  match Json.parse? text with
  | some (.array items) => items.mapM ofJson
  | some value => .error (.notAReport value.shape)
  | none => .error (.malformed text)

end Event

end Responder
