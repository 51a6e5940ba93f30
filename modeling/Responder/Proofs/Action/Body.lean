/-
# Responder.Proofs.Action.Body -- texts keep their place in a request's body

The body of a request is the compact text of a value in which the rendered texts
stand as strings.  Read back it is this value, member by member, whatever
characters the texts are made of; so a body tells the texts it was made from, and
nothing in an event adds, removes or changes any other member
(`bodies_read_back`).  That a body is sent is said of all hosts, and holds only of
the request that the action asks for (`sends_iff`).
-/
import Responder.Proofs.Action.Effect
import Responder.Proofs.Action.Scripted
import Responder.Proofs.Json.RoundTrip

namespace Responder.Action

set_option autoImplicit false

open Json (Writable maxDepth)

/-! ## Values of bodies -/

/-- A chat message: its text and nothing else. -/
def noticeValue (text : String) : Json := .object [("text", .string text)]

theorem version_inRange : -2 ^ 63 ≤ (1 : Int) ∧ (1 : Int) < 2 ^ 64 := by decide

/-- A document of one paragraph with one text. -/
def documentValue (text : String) : Json :=
  .object [
    ("content", .array [.object [
      ("content", .array [.object [("text", .string text), ("type", .string "text")]]),
      ("type", .string "paragraph")]]),
    ("type", .string "doc"),
    ("version", .number (.integer 1 version_inRange))]

/-- A new issue: project, summary, description and type, and nothing else. -/
def issueValue (projectKey summary description : String) : Json :=
  .object [
    ("description", documentValue description),
    ("issuetype", .object [("name", .string "Bug")]),
    ("project", .object [("key", .string projectKey)]),
    ("summary", .string summary)]

theorem noticeBody_eq (text : String) : noticeBody text = noticeValue text := rfl

theorem paragraph_eq (text : String) : paragraph text = documentValue text := by
  simp only [paragraph, documentValue, Json.ofMembers, Json.Members.ofList, Json.Members.insert,
    List.foldl_cons, List.foldl_nil, String.reduceLT, String.reduceEq, if_true, if_false]

theorem issueBody_eq (projectKey summary description : String) :
    issueBody projectKey summary description = issueValue projectKey summary description := by
  simp only [issueBody, issueValue, issueType, paragraph_eq, Json.ofMembers, Json.Members.ofList,
    Json.Members.insert, List.foldl_cons, List.foldl_nil, String.reduceLT, String.reduceEq, if_true, if_false]

/-! ## Texts of bodies -/

theorem writable_singleton {room : Nat} {v : Json} (writable : Writable room v) (key : String) :
    Writable (room + 1) (.object [(key, v)]) :=
  .object (List.pairwise_singleton _ _) (by simpa using writable)

theorem writable_noticeValue (room : Nat) (text : String) : Writable (room + 1) (noticeValue text) :=
  writable_singleton (.string text) "text"

theorem writable_documentValue (room : Nat) (text : String) : Writable (room + 5) (documentValue text) := by
  have leaf : Writable (room + 1) (.object [("text", .string text), ("type", .string "text")]) :=
    .object (show ["text", "type"].Pairwise (· < ·) by decide) (by simp [Writable.string])
  have block : Writable (room + 3) (.object [
      ("content", .array [.object [("text", .string text), ("type", .string "text")]]),
      ("type", .string "paragraph")]) :=
    .object (show ["content", "type"].Pairwise (· < ·) by decide)
      (by simpa [Writable.string] using Writable.array (by simpa using leaf))
  have version : Writable (room + 4) (.number (.integer 1 version_inRange)) :=
    .number (Json.readsBack_integer 1 version_inRange)
  exact .object (show ["content", "type", "version"].Pairwise (· < ·) by decide)
    (by simpa [Writable.string, version] using Writable.array (by simpa using block))

theorem writable_issueValue (room : Nat) (projectKey summary description : String) :
    Writable (room + 6) (issueValue projectKey summary description) := by
  have document := writable_documentValue room description
  have type : Writable (room + 5) (.object [("name", .string "Bug")]) :=
    writable_singleton (.string "Bug") "name"
  have project : Writable (room + 5) (.object [("key", .string projectKey)]) :=
    writable_singleton (.string projectKey) "key"
  exact .object (show ["description", "issuetype", "project", "summary"].Pairwise (· < ·) by decide)
    (by simp [document, type, project, Writable.string])

theorem parse?_noticeBody (text : String) :
    Json.parse? (noticeBody text).compact = some (noticeValue text) := by
  rw [noticeBody_eq]
  exact (writable_noticeValue 126 text).parse?_compact

theorem parse?_issueBody (projectKey summary description : String) :
    Json.parse? (issueBody projectKey summary description).compact =
      some (issueValue projectKey summary description) := by
  rw [issueBody_eq]
  exact (writable_issueValue 121 projectKey summary description).parse?_compact

/-- A chat message's body tells its text. -/
theorem noticeBody_injective {text text' : String}
    (same : (noticeBody text).compact = (noticeBody text').compact) : text = text' := by
  rw [noticeBody_eq, noticeBody_eq] at same
  cases (writable_noticeValue 126 text).eq_of_compact_eq (writable_noticeValue 126 text') same
  rfl

/-- A new issue's body tells its project, summary and description. -/
theorem issueBody_injective {k s d k' s' d' : String}
    (same : (issueBody k s d).compact = (issueBody k' s' d').compact) : k = k' ∧ s = s' ∧ d = d' := by
  rw [issueBody_eq, issueBody_eq] at same
  cases (writable_issueValue 121 k s d).eq_of_compact_eq (writable_issueValue 121 k' s' d') same
  exact ⟨rfl, rfl, rfl⟩

/-! ## Requests -/

/-- Whether carrying out an action for an event comes to sending a request, in every situation. -/
def Sends (action : Action) (event : Event) (kind : Kind) (request : Host.Request) : Prop :=
  ∀ (σ : Type) (services : Host.Services σ) (s : Situation σ),
    execute services action event s = post services kind request s

theorem sends_of_asks {action : Action} {event : Event} {kind : Kind} {request : Host.Request}
    (asks : action.Asks event (.request kind request)) : Sends action event kind request := by
  intro σ services s
  rw [execute, effect_eq_ok_iff.2 asks]
  rfl

/-- Only a request that is asked for is sent: a host that logs it and gives no response tells which
one it was, and the error tells for which kind of action. -/
theorem sends_iff {action : Action} {event : Event} {kind : Kind} {request : Host.Request} :
    Sends action event kind request ↔ action.Asks event (.request kind request) := by
  refine ⟨fun sends => ?_, sends_of_asks⟩
  let services := Host.Script.services fun _ => .error .notFound
  let s : Situation Host.Script := ⟨.unlimited, ⟨[.dropped], [], [], []⟩⟩
  have dropped (kind : Kind) (request : Host.Request) : post services kind request s =
      (.error (.http kind request.url.withoutUser.text), ⟨.unlimited, answered request s.world⟩) :=
    post_dropped rfl rfl
  have sent := (sends Host.Script services s).trans (dropped kind request)
  cases asked : action.effect event with
  | error e =>
      have unfit : execute services action event s = (.error (.render e), s) := by rw [execute, asked]
      cases congrArg Prod.fst (unfit.symm.trans sent)
  | ok effect =>
      have performed : execute services action event s = effect.perform services s := by rw [execute, asked]
      cases effect with
      | request kind' request' =>
          have same := (dropped kind' request').symm.trans (performed.symm.trans sent)
          obtain ⟨rfl, -⟩ := Error.http.inj (Outcome.error.inj (congrArg Prod.fst same))
          have logs : [Host.Logged.posted request'] = [.posted request] :=
            congrArg (fun ended => ended.2.world.log) same
          cases logs
          exact effect_eq_ok_iff.1 asked
      | command command =>
          have unfound : start services command s = (.error (.spawn command.path .notFound), s) :=
            start_unfound rfl
          cases congrArg Prod.fst (unfound.symm.trans (performed.symm.trans sent))

/-- **Texts keep their place in a request's body.**  A chat message whose text renders sends a body
that reads back as an object with this text and no other member; a new issue sends one that reads
back as exactly its project, summary, description and type.  So a message's body tells its text, and
an issue's body its project, summary and description. -/
theorem bodies_read_back :
    (∀ (notice : Notice) (event : Event) (text : String), notice.message.render event = .ok text →
      Sends (.slack notice) event .slack ⟨notice.url, none, (noticeBody text).compact⟩ ∧
        Json.parse? (noticeBody text).compact = some (noticeValue text)) ∧
    (∀ (issue : Issue) (event : Event) (summary description : String),
      issue.summary.render event = .ok summary → issue.description.render event = .ok description →
        Sends (.jira issue) event .jira
            ⟨issue.url, some issue.token, (issueBody issue.projectKey summary description).compact⟩ ∧
          Json.parse? (issueBody issue.projectKey summary description).compact =
            some (issueValue issue.projectKey summary description)) ∧
    (∀ text text' : String, (noticeBody text).compact = (noticeBody text').compact → text = text') ∧
    ∀ k s d k' s' d' : String,
      (issueBody k s d).compact = (issueBody k' s' d').compact → k = k' ∧ s = s' ∧ d = d' := by
  refine ⟨?_, ?_, fun _ _ => noticeBody_injective, fun _ _ _ _ _ _ => issueBody_injective⟩
  · intro notice event text rendered
    exact ⟨sends_of_asks (.slack rendered), parse?_noticeBody text⟩
  · intro issue event summary description renderedSummary renderedDescription
    exact ⟨sends_of_asks (.jira renderedSummary renderedDescription), parse?_issueBody _ _ _⟩

/-- An event whose text closes the string and the object, opens another member, and goes on with a
backslash, control characters and characters beyond ASCII: all of it is the one text of the body. -/
theorem bodies_read_back_hostile :
    let url : Url := ⟨true, [], .domain ['h'], none, [['x']], none, none⟩
    let template : Template := ⟨"slack", "\x7b\x7b .x \x7d\x7d".toList, [.action (.value (.chain ["x"])) 0]⟩
    let hostile := "\"\x7d, \"text\":\"\\\x00\n\x1f\x7fé\u2028😀"
    let event : Event := ⟨[("x", .string hostile)]⟩
    let issue : Issue := ⟨url, template, template, "K\"\x7d", "token"⟩
    Sends (.slack ⟨url, template⟩) event .slack ⟨url, none, (noticeBody hostile).compact⟩ ∧
      Json.parse? (noticeBody hostile).compact = some (.object [("text", .string hostile)]) ∧
      Sends (.jira issue) event .jira ⟨url, some "token", (issueBody "K\"\x7d" hostile hostile).compact⟩ ∧
      Json.parse? (issueBody "K\"\x7d" hostile hostile).compact =
        some (issueValue "K\"\x7d" hostile hostile) := by
  intro url template hostile event issue
  have rendered : template.render event = .ok hostile := by decide +kernel
  obtain ⟨notices, issues, -, -⟩ := bodies_read_back
  obtain ⟨sent, read⟩ := notices ⟨url, template⟩ event hostile rendered
  exact ⟨sent, read, issues issue event hostile hostile rendered rendered⟩

end Responder.Action
