/-
# Responder.Action.Execute -- carrying out an action for an event

First all templates are rendered, so an event with unfit data has no effect on
the world.  Then there is one effect: one request, or one program started.  A
request goes well if its response has a status below 300, and a program if it
exits with zero.  A program that is not waited for to its end is killed.
-/
import Responder.Action.Payload
import Responder.Host.Services
import Responder.Text.Lossy

namespace Responder.Action

set_option autoImplicit false

variable {σ : Type}

/-- Goes on after a value, in the situation that it left. -/
def Outcome.andThen {ε α β : Type} (x : Outcome ε α × Situation σ)
    (f : α → Situation σ → Outcome ε β × Situation σ) : Outcome ε β × Situation σ :=
  match x with
  | (.ok a, s) => f a s
  | (.error e, s) => (.error e, s)
  | (.endless, s) => (.endless, s)

/-- The text of a body, empty if the body is not complete. -/
def bodyText : Option (List UInt8) → String
  | some bytes => Text.lossy bytes
  | none => ""

/-- The outcome of a request by its response: the body is read only of a
failure, for its message. -/
def settle (kind : Kind) (response : Host.Response) (s : Situation σ) :
    Outcome Error Unit × Situation σ :=
  if response.status < 300 then (.ok (), s)
  else
    Outcome.andThen (s.await (response.body.map .ok)) fun body s =>
      (.error (.status kind response.status (bodyText body)), s)

/-- Sends a request, unless the context is cancelled, and waits for its response. -/
def post (services : Host.Services σ) (kind : Kind) (request : Host.Request) (s : Situation σ) :
    Outcome Error Unit × Situation σ :=
  if s.context.cancelled then (.error .cancelled, s)
  else
    let (work, world) := services.post request s.world
    let received : Option Host.Response → Except Error Host.Response
      | some response => .ok response
      | none => .error (.http kind request.url.withoutUser.text)
    Outcome.andThen (Situation.await ⟨s.context, world⟩ (work.map received)) (settle kind)

/-- Writes a program's input, closes it and waits for the program's end.  A program
may end or close its input without reading it. -/
def feedAndWait (path : String) (child : Host.Child) : Work (Except Error Host.ExitStatus) :=
  child.feeding.bind fun
    | .ok () | .error .brokenPipe => child.waiting.map fun ended => ended.mapError (.wait path)
    | .error fault => .ready false (.error (.stdin path fault))

/-- The outcome of a program by what waiting for its end came to.  If that went wrong
or was cut short, the program is killed. -/
def conclude (services : Host.Services σ) (command : Host.Command) :
    Outcome Error Host.ExitStatus × Situation σ → Outcome Error Unit × Situation σ
  | (.ok status, s) => (if status.success then .ok () else .error (.exit command.path status), s)
  | (.error e, s) => (.error e, { s with world := services.kill command s.world })
  | (.endless, s) => (.endless, s)

/-- Starts a program, feeds it and waits for its end. -/
def start (services : Host.Services σ) (command : Host.Command) (s : Situation σ) :
    Outcome Error Unit × Situation σ :=
  match services.start command s.world with
  | (.error fault, world) => (.error (.spawn command.path fault), { s with world })
  | (.ok child, world) =>
    conclude services command (Situation.await ⟨s.context, world⟩ (feedAndWait command.path child))

/-- The one effect that an action has on the world. -/
inductive Effect where
  | request (kind : Kind) (request : Host.Request)
  | command (command : Host.Command)
  deriving DecidableEq

/-- The effect of an action for an event, which may not fit its templates. -/
def effect (action : Action) (event : Event) : Except Template.Error Effect :=
  match action with
  | .slack notice => do
    let text ← notice.message.render event
    return .request .slack ⟨notice.url, none, (noticeBody text).compact⟩
  | .jira issue => do
    let summary ← issue.summary.render event
    let description ← issue.description.render event
    let body := issueBody issue.projectKey summary description
    return .request .jira ⟨issue.url, some issue.token, body.compact⟩
  | .exec program => do
    let args ← program.args.mapM fun t => t.render event
    return .command ⟨program.path, args, event.json.compact⟩

/-- Has an effect on the world. -/
def Effect.perform (services : Host.Services σ) (s : Situation σ) :
    Effect → Outcome Error Unit × Situation σ
  | .request kind sent => post services kind sent s
  | .command started => start services started s

/-- Carries out an action for an event. -/
def execute (services : Host.Services σ) (action : Action) (event : Event) (s : Situation σ) :
    Outcome Error Unit × Situation σ :=
  match action.effect event with
  | .error e => (.error (.render e), s)
  | .ok effect => effect.perform services s

end Responder.Action
