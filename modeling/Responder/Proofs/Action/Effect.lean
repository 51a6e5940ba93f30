/-
# Responder.Proofs.Action.Effect -- what an action asks of the world

`Asks` tells by kind of action which request or command an event leads to, and
from which rendered texts it is made.  An action has an effect exactly if all of
its templates render (`effect_eq_ok_iff`); otherwise the first one that does not,
in the order of rendering, gives the error (`effect_eq_error_iff`).
-/
import Responder.Action.Execute
import Responder.Proofs.Except

namespace Responder.Action

set_option autoImplicit false

/-- What an action asks of the world for an event: a request to its own address with a body made
of the rendered texts, or its own program with one argument for each template. -/
inductive Asks : Action → Event → Effect → Prop where
  | slack {notice : Notice} {event : Event} {text : String}
      (rendered : notice.message.render event = .ok text) :
      Asks (.slack notice) event (.request .slack ⟨notice.url, none, (noticeBody text).compact⟩)
  | jira {issue : Issue} {event : Event} {summary description : String}
      (renderedSummary : issue.summary.render event = .ok summary)
      (renderedDescription : issue.description.render event = .ok description) :
      Asks (.jira issue) event (.request .jira
        ⟨issue.url, some issue.token, (issueBody issue.projectKey summary description).compact⟩)
  | exec {program : Program} {event : Event} {args : List String}
      (rendered : List.Forall₂ (fun template arg => template.render event = .ok arg) program.args args) :
      Asks (.exec program) event (.command ⟨program.path, args, event.json.compact⟩)

/-- The templates of an action, in the order of rendering. -/
def templates : Action → List Template
  | .slack notice => [notice.message]
  | .jira issue => [issue.summary, issue.description]
  | .exec program => program.args

/-- An action does not fit an event: this is the error of the first template that does not render. -/
def Unfit (action : Action) (event : Event) (error : Template.Error) : Prop :=
  ∃ front template back, action.templates = front ++ template :: back ∧
    (∀ earlier ∈ front, ∃ text, earlier.render event = .ok text) ∧ template.render event = .error error

/-- Rendering all templates of a list fails as an action with these templates does. -/
theorem unfit_iff_mapM {action : Action} {event : Event} {error : Template.Error} :
    action.Unfit event error ↔ action.templates.mapM (·.render event) = .error error :=
  mapM_eq_error_iff.symm

theorem effect_eq_ok_iff {action : Action} {event : Event} {effect : Effect} :
    action.effect event = .ok effect ↔ action.Asks event effect := by
  constructor
  · intro asked
    cases action with
    | slack notice =>
        obtain ⟨text, rendered, made⟩ := bind_eq_ok_iff.1 asked
        cases made
        exact .slack rendered
    | jira issue =>
        obtain ⟨summary, renderedSummary, rest⟩ := bind_eq_ok_iff.1 asked
        obtain ⟨description, renderedDescription, made⟩ := bind_eq_ok_iff.1 rest
        cases made
        exact .jira renderedSummary renderedDescription
    | exec program =>
        obtain ⟨args, rendered, made⟩ := bind_eq_ok_iff.1 asked
        cases made
        exact .exec (mapM_eq_ok_iff.1 rendered)
  · intro asks
    cases asks with
    | slack rendered => exact bind_eq_ok_iff.2 ⟨_, rendered, rfl⟩
    | jira renderedSummary renderedDescription =>
        exact bind_eq_ok_iff.2 ⟨_, renderedSummary, bind_eq_ok_iff.2 ⟨_, renderedDescription, rfl⟩⟩
    | exec rendered => exact bind_eq_ok_iff.2 ⟨_, mapM_eq_ok_iff.2 rendered, rfl⟩

theorem error_iff_error {ε α β : Type} {e e' : ε} :
    (.error e : Except ε α) = .error e' ↔ (.error e : Except ε β) = .error e' := by
  rw [Except.error.injEq, Except.error.injEq]

theorem effect_eq_error_iff {action : Action} {event : Event} {error : Template.Error} :
    action.effect event = .error error ↔ action.Unfit event error := by
  rw [unfit_iff_mapM]
  cases action with
  | slack notice =>
      simp only [templates, effect, List.mapM_cons, List.mapM_nil]
      cases notice.message.render event with
      | error e => exact error_iff_error
      | ok text => exact iff_of_false (fun h => by cases h) fun h => by cases h
  | jira issue =>
      simp only [templates, effect, List.mapM_cons, List.mapM_nil]
      cases issue.summary.render event with
      | error e => exact error_iff_error
      | ok summary =>
          cases issue.description.render event with
          | error e => exact error_iff_error
          | ok description => exact iff_of_false (fun h => by cases h) fun h => by cases h
  | exec program =>
      simp only [templates, effect]
      cases program.args.mapM (·.render event) with
      | error e => exact error_iff_error
      | ok args => exact iff_of_false (fun h => by cases h) fun h => by cases h

end Responder.Action
