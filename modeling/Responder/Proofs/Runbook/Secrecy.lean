/-
# Responder.Proofs.Runbook.Secrecy -- secrets reach nothing but tokens

Entries that differ only in where their secrets come from build in the same way, as
far as each secret resolves in the same way (`build_masked_of_resolved`): the defects
are the same, and so are the steps once tokens are masked.  Steps that are the same
behind the mask are carried out in the same way (`run_masked`), so two such runbooks
differ in nothing but the tokens that new issues show (`secrets_reach_only_tokens`).
-/
import Responder.Proofs.Action.Masked
import Responder.Proofs.Dispatch.Alike
import Responder.Proofs.Runbook.Building
import Responder.Proofs.Runbook.Condition

namespace Responder.Runbook

set_option autoImplicit false

open Responder.Action (Situation Outcome maskedEnd)
open Responder.Host (Script Command Fault)

/-! ## Secrets left out -/

/-- A section without what tells its token. -/
def JiraSection.withoutSecret (settings : JiraSection) : JiraSection :=
  { settings with secret := none, secretEnv := none }

/-- A section without what tells its token, if it has one. -/
def Section.withoutSecret : Section → Section
  | .slack settings => .slack settings
  | .jira settings => .jira settings.withoutSecret
  | .exec settings => .exec settings

/-- An entry without what tells its token. -/
def Entry.withoutSecret (entry : Entry) : Entry :=
  { entry with jira := entry.jira.map JiraSection.withoutSecret }

theorem sectionOf?_withoutSecret (entry : Entry) (kind : Action.Kind) :
    entry.withoutSecret.sectionOf? kind = (entry.sectionOf? kind).map Section.withoutSecret := by
  cases kind <;> simp [Entry.sectionOf?, Entry.withoutSecret, Section.withoutSecret, Function.comp_def]

theorem content_withoutSecret (entry : Entry) :
    entry.withoutSecret.content = entry.content.map Section.withoutSecret := by
  simp only [Entry.content, sectionOf?_withoutSecret, Option.isSome_map]
  change (kindOf entry.type >>= _) = _
  cases kindOf entry.type with
  | error defect => rfl
  | ok kind =>
      simp only [bind, Except.bind]
      cases Action.Kind.all.find? fun other => (entry.sectionOf? other).isSome && other != kind with
      | some extra => rfl
      | none => cases entry.sectionOf? kind <;> rfl

/-- The content of an entry is that of its own kind. -/
theorem content_eq_jira {entry : Entry} {settings : JiraSection} (found : entry.content = .ok (.jira settings)) :
    entry.type = "jira" ∧ entry.jira = some settings :=
  ⟨(is_of_content found).1, (is_of_content found).jira⟩

/-! ## What a secret resolves to -/

/-- How a secret resolves, apart from what it is. -/
inductive Resolved where
  | missing
  /-- It may not stand in a header. -/
  | illegal
  | legal
  deriving DecidableEq

/-- How the secret of a section resolves. -/
def JiraSection.resolved (secrets : Secrets) (settings : JiraSection) : Resolved :=
  match secrets.resolve settings.secret settings.secretEnv with
  | none => .missing
  | some secret => if isHeaderValue secret then .legal else .illegal

/-- How the secret of an entry resolves, if it has a section for one. -/
def Entry.resolved? (secrets : Secrets) (entry : Entry) : Option Resolved :=
  entry.jira.map (JiraSection.resolved secrets)

variable {secrets secrets' : Secrets}

/-- What is told of a token by how its secret resolves. -/
def Resolved.shown : Resolved → Except Defect String
  | .missing => .error .missingSecret
  | .illegal => .error .invalidSecret
  | .legal => .ok tokenMask

/-- A token tells no more than how its secret resolves, once it is masked. -/
theorem token_masked (secrets : Secrets) (settings : JiraSection) :
    (settings.token secrets).map (fun _ => tokenMask) = (settings.resolved secrets).shown := by
  unfold JiraSection.token JiraSection.resolved
  cases secrets.resolve settings.secret settings.secretEnv with
  | none => rfl
  | some secret =>
      by_cases legal : isHeaderValue secret
      · simp only [if_pos legal]
        rfl
      · simp only [if_neg legal]
        rfl

theorem resolved_of_token {settings : JiraSection} {token : String}
    (found : settings.token secrets = .ok token) : settings.resolved secrets = .legal := by
  have shown := token_masked secrets settings
  rw [found] at shown
  cases resolved : settings.resolved secrets <;> rw [resolved] at shown <;> first | rfl | cases shown

/-- A secret that is given directly needs no source. -/
theorem token_of_direct {settings : JiraSection} {direct : String} (given : settings.secret = some direct)
    (nonempty : direct ≠ "") : settings.token secrets = settings.token secrets' := by
  simp [JiraSection.token, Secrets.resolve, given, nonempty, Option.filter]

/-! ## Building behind the mask -/

/-- The issue of a section, with a mask where its token is due. -/
def JiraSection.untokened (settings : JiraSection) : Except Defect Action.Issue := do
  let url ← address .jiraUrl settings.webhookUrl
  required .jiraSummary settings.summaryTemplate
  required .jiraProject settings.projectKey
  let summary ← template .jiraSummary "jira-summary" settings.summaryTemplate
  let description ← template .jiraDescription "jira-desc" settings.descriptionTemplate
  return ⟨url, summary, description, settings.projectKey, tokenMask⟩

/-- The token is looked for last. -/
theorem jira_build_eq (settings : JiraSection) :
    settings.build secrets = do
      let issue ← settings.untokened
      return { issue with token := ← settings.token secrets } := by
  simp [JiraSection.build, JiraSection.untokened]

theorem jira_build_masked {settings settings' : JiraSection}
    (same : settings.withoutSecret = settings'.withoutSecret)
    (resolved : settings.resolved secrets = settings'.resolved secrets') :
    (settings.build secrets).map Action.Issue.masked = (settings'.build secrets').map Action.Issue.masked := by
  have unread (s : JiraSection) : s.withoutSecret.untokened = s.untokened := rfl
  have begun : settings.untokened = settings'.untokened := by
    rw [← unread settings, same, unread settings']
  have tokens : (settings.token secrets).map (fun _ => tokenMask) =
      (settings'.token secrets').map fun _ => tokenMask := by
    rw [token_masked, token_masked, resolved]
  rw [jira_build_eq, jira_build_eq, begun]
  cases settings'.untokened with
  | error defect => rfl
  | ok issue =>
      -- behind the mask an issue is made of what its token is mapped to
      have masked (token : Except Defect String) :
          (do return { issue with token := ← token } : Except Defect Action.Issue).map Action.Issue.masked =
            (token.map fun _ => tokenMask).map fun mask => { issue with token := mask } := by
        cases token <;> rfl
      exact (masked _).trans ((congrArg _ tokens).trans (masked _).symm)

/-- A step with its token masked. -/
def Step.masked (step : Step) : Step := { step with action := step.action.masked }

/-- A runbook with its tokens masked. -/
def masked (runbook : Runbook) : Runbook := ⟨runbook.steps.map Step.masked⟩

@[simp] theorem describe_step_masked (step : Step) : step.masked.describe = step.describe := by
  simp only [Step.describe, Step.masked, Action.describe_masked]

/-- Entries differ in nothing but their secrets, and the secret that counts resolves in the same way. -/
structure SameButSecret (secrets secrets' : Secrets) (entry entry' : Entry) : Prop where
  rest : entry.withoutSecret = entry'.withoutSecret
  resolved : ∀ settings settings', entry.content = .ok (.jira settings) →
    entry'.content = .ok (.jira settings') → settings.resolved secrets = settings'.resolved secrets'

theorem section_build_masked {content content' : Section}
    (same : content.withoutSecret = content'.withoutSecret)
    (resolved : ∀ settings settings', content = .jira settings → content' = .jira settings' →
      settings.resolved secrets = settings'.resolved secrets') :
    (content.build secrets).map Action.masked = (content'.build secrets').map Action.masked := by
  cases content <;> cases content' <;> injection same
  case slack.slack same =>
    rw [same]
    rfl
  case jira.jira settings settings' same =>
    have issues := jira_build_masked same (resolved settings settings' rfl rfl)
    have lifted (issue : Except Defect Action.Issue) :
        (do return .jira (← issue) : Except Defect Action).map Action.masked =
          (issue.map Action.Issue.masked).map .jira := by
      cases issue <;> rfl
    exact (lifted _).trans ((congrArg _ issues).trans (lifted _).symm)
  case exec.exec same =>
    rw [same]
    rfl

theorem build_of_content_error {entry : Entry} {defect : Defect} (found : entry.content = .error defect) :
    entry.build secrets = .error defect := by
  rw [Entry.build, found]
  rfl

theorem build_of_content {entry : Entry} {content : Section} (found : entry.content = .ok content) :
    entry.build secrets = do return ⟨← content.build secrets, ← filter entry.pattern?⟩ := by
  rw [Entry.build, found]
  rfl

theorem step_masked (action : Except Defect Action) (chosen : Except Defect (Option Action.Filter)) :
    (do return ⟨← action, ← chosen⟩ : Except Defect Step).map Step.masked =
      (do return ⟨← action.map Action.masked, ← chosen⟩) := by
  cases action with
  | error defect => rfl
  | ok action => cases chosen <;> rfl

/-- **Behind the mask, an entry builds as its secret resolves.** -/
theorem build_masked_of_resolved {entry entry' : Entry} (same : SameButSecret secrets secrets' entry entry') :
    (entry.build secrets).map Step.masked = (entry'.build secrets').map Step.masked := by
  have contents : entry.content.map Section.withoutSecret = entry'.content.map Section.withoutSecret := by
    rw [← content_withoutSecret, same.rest, content_withoutSecret]
  have unread (e : Entry) : e.withoutSecret.pattern? = e.pattern? := rfl
  have pattern : entry.pattern? = entry'.pattern? := by
    rw [← unread entry, same.rest, unread entry']
  rcases map_eq_map_iff.1 contents with ⟨defect, found, found'⟩ | ⟨content, content', found, found', rest⟩
  · rw [build_of_content_error found, build_of_content_error found']
  · have actions := section_build_masked rest fun settings settings' here here' =>
      same.resolved settings settings' (here ▸ found) (here' ▸ found')
    rw [build_of_content found, build_of_content found', step_masked, step_masked, actions, pattern]

/-- An entry that builds has no secret, or one that resolves to a legal token. -/
theorem resolved_of_build {entry : Entry} {settings : JiraSection} {step : Step}
    (found : entry.content = .ok (.jira settings)) (built : entry.build secrets = .ok step) :
    settings.resolved secrets = .legal := by
  rw [build_of_content found] at built
  obtain ⟨action, made, -⟩ := bind_eq_ok_iff.1 built
  obtain ⟨issue, whole, -⟩ := bind_eq_ok_iff.1 made
  rw [jira_build_eq] at whole
  obtain ⟨begun, -, rest⟩ := bind_eq_ok_iff.1 whole
  obtain ⟨token, shown, -⟩ := bind_eq_ok_iff.1 rest
  exact resolved_of_token shown

/-- What a direct secret makes of an entry is the same with every source. -/
theorem build_of_direct {entry : Entry}
    (direct : entry.type = "jira" → ∀ settings, entry.jira = some settings →
      ∃ secret, settings.secret = some secret ∧ secret ≠ "") :
    entry.build secrets = entry.build secrets' := by
  cases found : entry.content with
  | error defect => rw [build_of_content_error found, build_of_content_error found]
  | ok content =>
      have same : content.build secrets = content.build secrets' := by
        cases content with
        | slack settings => rfl
        | jira settings =>
            obtain ⟨type, there⟩ := content_eq_jira found
            obtain ⟨secret, given, nonempty⟩ := direct type settings there
            have token : settings.token secrets = settings.token secrets' := token_of_direct given nonempty
            rw [Section.build, Section.build, jira_build_eq, jira_build_eq, token]
        | exec settings => rfl
      rw [build_of_content found, build_of_content found, same]

/-! ## Runbooks behind the mask -/

theorem buildSteps_masked {entries entries' : List Entry}
    (each : List.Forall₂ (fun entry entry' =>
      (entry.build secrets).map Step.masked = (entry'.build secrets').map Step.masked) entries entries')
    (index : Nat) :
    (buildSteps secrets index entries).map (List.map Step.masked) =
      (buildSteps secrets' index entries').map (List.map Step.masked) := by
  induction each generalizing index with
  | nil => rfl
  | @cons entry entry' rest rest' here behind ih =>
      rw [buildSteps, buildSteps]
      rcases map_eq_map_iff.1 here with ⟨defect, built, built'⟩ | ⟨step, step', built, built', same⟩
      · rw [built, built']
      · rw [built, built']
        rcases map_eq_map_iff.1 (ih (index + 1)) with ⟨e, made, made'⟩ | ⟨steps, steps', made, made', follow⟩
        · simp only [made, made']
          rfl
        · simp only [made, made']
          exact congrArg Except.ok (congrArg₂ List.cons same follow)

/-- Behind the mask, a runbook is built of what its entries are behind it. -/
theorem build_runbook_masked {entries entries' : List Entry}
    (each : List.Forall₂ (fun entry entry' =>
      (entry.build secrets).map Step.masked = (entry'.build secrets').map Step.masked) entries entries') :
    (build secrets entries).map masked = (build secrets' entries').map masked := by
  have steps := buildSteps_masked each 0
  have wrapped (made : Except Error (List Step)) :
      (do return ⟨← made⟩ : Except Error Runbook).map masked =
        (made.map (List.map Step.masked)).map Runbook.mk := by
    cases made <;> rfl
  exact (wrapped _).trans ((congrArg _ steps).trans (wrapped _).symm)

/-- **Behind the mask, runs go the same way.** -/
theorem run_masked (find : Command → Except Fault Unit) (runbook : Runbook) (events : List Event)
    (s : Situation Script) :
    Runbook.run (Script.services find) runbook.masked events s.masked =
      maskedEnd (Runbook.run (Script.services find) runbook events s) := by
  let services := Script.services find
  have alike (step : Step) : (step.executable services).Alike (fun s t => t = s.masked)
      (step.masked.executable services) := by
    refine ⟨(Action.kind_masked step.action).symm, rfl, ?_⟩
    rintro event s _ rfl
    have executed := Action.execute_masked find step.action event s
    exact ⟨(congrArg Prod.fst executed).symm, congrArg Prod.snd executed⟩
  have all : List.Forall₂ (Dispatch.Executable.Alike fun s t => t = s.masked)
      (runbook.steps.map (Step.executable services)) (runbook.masked.steps.map (Step.executable services)) := by
    rw [masked, List.map_map, List.forall₂_map_left_iff, List.forall₂_map_right_iff, List.forall₂_same]
    exact fun step _ => alike step
  obtain ⟨result, situation⟩ := Dispatch.run_alike (by rintro s _ rfl; rfl) all events (s := s) rfl
  exact Prod.ext (congrArg (Outcome.mapError Error.dispatch) result.symm) situation

/-- Runbooks that are the same behind the mask describe themselves and are carried out in the same
way, and consume the same of what the world has in store; they log the same but for tokens. -/
theorem run_eq_of_masked {runbook runbook' : Runbook} (same : runbook.masked = runbook'.masked)
    (find : Command → Except Fault Unit) (events : List Event) (s : Situation Script) :
    maskedEnd (Runbook.run (Script.services find) runbook events s) =
      maskedEnd (Runbook.run (Script.services find) runbook' events s) := by
  rw [← run_masked, ← run_masked, same]

theorem describe_eq_of_masked {runbook runbook' : Runbook} (same : runbook.masked = runbook'.masked) :
    runbook.steps.map Step.describe = runbook'.steps.map Step.describe ∧
      runbook.steps.map (fun step => step.action.describe) =
        runbook'.steps.map fun step => step.action.describe := by
  have steps : runbook.steps.map Step.masked = runbook'.steps.map Step.masked := congrArg Runbook.steps same
  have whole : Step.describe ∘ Step.masked = Step.describe := funext describe_step_masked
  have inner : (fun step => step.action.describe) ∘ Step.masked = fun step : Step => step.action.describe :=
    funext fun step => Action.describe_masked step.action
  constructor
  · have := congrArg (List.map Step.describe) steps
    rwa [List.map_map, List.map_map, whole] at this
  · have := congrArg (List.map fun step : Step => step.action.describe) steps
    rwa [List.map_map, List.map_map, inner] at this

/-! ## Two runbooks -/

theorem forall₂_of_map_eq_map {α β γ : Type} {f : α → γ} {g : β → γ} {xs : List α} {ys : List β}
    (same : xs.map f = ys.map g) : List.Forall₂ (fun x y => f x = g y) xs ys := by
  rw [← List.forall₂_eq_eq_eq, List.forall₂_map_left_iff, List.forall₂_map_right_iff] at same
  exact same

theorem sameButSecret_of_build {entry entry' : Entry} {step step' : Step}
    (rest : entry.withoutSecret = entry'.withoutSecret) (built : entry.build secrets = .ok step)
    (built' : entry'.build secrets' = .ok step') : SameButSecret secrets secrets' entry entry' := by
  refine ⟨rest, fun settings settings' found found' => ?_⟩
  rw [resolved_of_build found built, resolved_of_build found' built']

theorem sameButSecret_of_resolved {entry entry' : Entry} (rest : entry.withoutSecret = entry'.withoutSecret)
    (resolved : entry.resolved? secrets = entry'.resolved? secrets') :
    SameButSecret secrets secrets' entry entry' := by
  refine ⟨rest, fun settings settings' found found' => ?_⟩
  obtain ⟨-, there⟩ := content_eq_jira found
  obtain ⟨-, there'⟩ := content_eq_jira found'
  rw [Entry.resolved?, Entry.resolved?, there, there'] at resolved
  exact Option.some.inj resolved

theorem build_masked_of_sameButSecret {entries entries' : List Entry}
    (same : List.Forall₂ (SameButSecret secrets secrets') entries entries') :
    (build secrets entries).map masked = (build secrets' entries').map masked :=
  build_runbook_masked (same.imp fun _ _ => build_masked_of_resolved)

theorem forall₂_sameButSecret_of_build {entries entries' : List Entry}
    (rest : List.Forall₂ (fun entry entry' => entry.withoutSecret = entry'.withoutSecret) entries entries')
    (each : ∀ entry ∈ entries, ∃ step, entry.build secrets = .ok step)
    (each' : ∀ entry' ∈ entries', ∃ step', entry'.build secrets' = .ok step') :
    List.Forall₂ (SameButSecret secrets secrets') entries entries' := by
  induction rest with
  | nil => exact .nil
  | cons here behind ih =>
      obtain ⟨step, built⟩ := each _ List.mem_cons_self
      obtain ⟨step', built'⟩ := each' _ List.mem_cons_self
      refine .cons (sameButSecret_of_build here built built') (ih ?_ ?_)
      · exact fun entry member => each entry (List.mem_cons_of_mem _ member)
      · exact fun entry' member => each' entry' (List.mem_cons_of_mem _ member)

/-- Runbooks that differ only in secrets are the same behind the mask, if both build. -/
theorem masked_eq_of_build {entries entries' : List Entry} {runbook runbook' : Runbook}
    (same : entries.map Entry.withoutSecret = entries'.map Entry.withoutSecret)
    (built : build secrets entries = .ok runbook) (built' : build secrets' entries' = .ok runbook') :
    runbook.masked = runbook'.masked := by
  have each : List.Forall₂ (SameButSecret secrets secrets') entries entries' :=
    forall₂_sameButSecret_of_build (forall₂_of_map_eq_map same) (fun _ => exists_step_of_mem built)
      (fun _ => exists_step_of_mem built')
  have whole := build_masked_of_sameButSecret each
  rw [built, built'] at whole
  exact Except.ok.inj whole

/-- Runbooks that differ only in secrets, each of which resolves in the same way, fail to build alike. -/
theorem build_eq_error_iff_of_resolved {entries entries' : List Entry}
    (same : entries.map Entry.withoutSecret = entries'.map Entry.withoutSecret)
    (resolved : entries.map (Entry.resolved? secrets) = entries'.map (Entry.resolved? secrets')) (e : Error) :
    build secrets entries = .error e ↔ build secrets' entries' = .error e := by
  have each : List.Forall₂ (SameButSecret secrets secrets') entries entries' :=
    .mp (fun _ _ => sameButSecret_of_resolved) (forall₂_of_map_eq_map same) (forall₂_of_map_eq_map resolved)
  rcases map_eq_map_iff.1 (build_masked_of_sameButSecret each) with
    ⟨own, failed, failed'⟩ | ⟨runbook, runbook', built, built', -⟩
  · rw [failed, failed']
  · rw [built, built']
    exact iff_of_false (fun failed => by cases failed) fun failed => by cases failed

theorem build_eq_of_direct {entries : List Entry}
    (direct : ∀ entry ∈ entries, entry.type = "jira" → ∀ settings, entry.jira = some settings →
      ∃ secret, settings.secret = some secret ∧ secret ≠ "") :
    build secrets entries = build secrets' entries := by
  have steps (index : Nat) : buildSteps secrets index entries = buildSteps secrets' index entries := by
    induction entries generalizing index with
    | nil => rfl
    | cons entry rest ih =>
        have here : entry.build secrets = entry.build secrets' :=
          build_of_direct (direct entry List.mem_cons_self)
        have behind := ih fun other member => direct other (List.mem_cons_of_mem _ member)
        rw [buildSteps, buildSteps, here, behind]
  rw [build, build, steps]

/-- **A secret reaches nothing but its token.**  Two lists of entries that differ only in their
secrets, each built with a source of its own, describe themselves in the same way and run in the same
way for all events, from every context and whatever the world has in store: with the same result, with
the same replies and endings left, and with the same log but for tokens, which only new issues show.
If every secret is given directly, the source makes no difference at all; and an error in building
depends on a secret only by whether it is missing, illegal or legal. -/
theorem secrets_reach_only_tokens :
    (∀ (secrets secrets' : Secrets) (entries entries' : List Entry) (runbook runbook' : Runbook),
      entries.map Entry.withoutSecret = entries'.map Entry.withoutSecret →
      build secrets entries = .ok runbook → build secrets' entries' = .ok runbook' →
        runbook.steps.map Step.describe = runbook'.steps.map Step.describe ∧
        (runbook.steps.map fun step => step.action.describe) =
          (runbook'.steps.map fun step => step.action.describe) ∧
        ∀ (find : Command → Except Fault Unit) (events : List Event) (s : Situation Script),
          let ran := Runbook.run (Script.services find) runbook events s
          let ran' := Runbook.run (Script.services find) runbook' events s
          ran.1 = ran'.1 ∧ ran.2.context = ran'.2.context ∧
            ran.2.world.replies = ran'.2.world.replies ∧ ran.2.world.endings = ran'.2.world.endings ∧
            ran.2.world.log.map Host.Logged.masked = ran'.2.world.log.map Host.Logged.masked) ∧
    (∀ (action : Action) (event : Event) (kind : Action.Kind) (request : Host.Request),
      action.effect event = .ok (.request kind request) → request.token.isSome = (kind == .jira)) ∧
    (∀ (secrets secrets' : Secrets) (entries : List Entry),
      (∀ entry ∈ entries, entry.type = "jira" → ∀ settings, entry.jira = some settings →
        ∃ secret, settings.secret = some secret ∧ secret ≠ "") →
      build secrets entries = build secrets' entries) ∧
    ∀ (secrets secrets' : Secrets) (entries entries' : List Entry),
      entries.map Entry.withoutSecret = entries'.map Entry.withoutSecret →
      entries.map (Entry.resolved? secrets) = entries'.map (Entry.resolved? secrets') →
        ∀ e, build secrets entries = .error e ↔ build secrets' entries' = .error e := by
  refine ⟨?_, fun _ _ _ _ => Action.token_of_effect, fun _ _ _ => build_eq_of_direct,
    fun _ _ _ _ => build_eq_error_iff_of_resolved⟩
  intro secrets secrets' entries entries' runbook runbook' same built built'
  have masked := masked_eq_of_build same built built'
  obtain ⟨whole, inner⟩ := describe_eq_of_masked masked
  refine ⟨whole, inner, ?_⟩
  intro find events s ran ran'
  have ended : maskedEnd ran = maskedEnd ran' := run_eq_of_masked masked find events s
  have result := congrArg Prod.fst ended
  have context := congrArg (fun ended => ended.2.context) ended
  have replies := congrArg (fun ended => ended.2.world.replies) ended
  have endings := congrArg (fun ended => ended.2.world.endings) ended
  have log := congrArg (fun ended => ended.2.world.log) ended
  exact ⟨result, context, replies, endings, log⟩

/-- A token that is given directly and one that is found under a name: the message and an issue are
sent before the second issue fails, and the logs are the same behind the mask, where they are not
without it.  Two illegal secrets, one of each kind, have the same defect. -/
theorem secrets_reach_only_tokens_named :
    let issue (secret secretEnv : Option String) : Entry :=
      ⟨"jira", none, none, some ⟨"https://[::1]/x", secret, secretEnv, "\x7b\x7b .id \x7d\x7d", "", "K"⟩, none⟩
    let message : Entry := ⟨"slack", some "^A", some ⟨"http://[::1]", "\x7b\x7b .id \x7d\x7d"⟩, none, none⟩
    let entries := [message, issue (some "a") none]
    let entries' := [message, issue none (some "T")]
    let secrets := Secrets.ofList []
    let secrets' := Secrets.ofList [("T", "b"), ("N", "\n")]
    let events : List Event := [⟨[("id", .string "A")]⟩, ⟨[("id", .string "B")]⟩]
    let s : Situation Script :=
      ⟨.unlimited, ⟨[.response 200 [] true, .response 204 [] true, .dropped], [], [], []⟩⟩
    let find : Command → Except Fault Unit := fun _ => .ok ()
    build secrets entries = build secrets' entries ∧
      (build secrets [issue (some "\x7f") (some "T")] = .error (.entry 0 .invalidSecret) ↔
        build secrets' [issue none (some "N")] = .error (.entry 0 .invalidSecret)) ∧
      ∃ runbook runbook', build secrets entries = .ok runbook ∧ build secrets' entries' = .ok runbook' ∧
        let ran := Runbook.run (Script.services find) runbook events s
        let ran' := Runbook.run (Script.services find) runbook' events s
        ran.1 = ran'.1 ∧ ran.2.world.log.map Host.Logged.masked = ran'.2.world.log.map Host.Logged.masked ∧
          ran.2.world.log ≠ ran'.2.world.log := by
  intro issue message entries entries' secrets secrets' events s find
  obtain ⟨runs, -, direct, defects⟩ := secrets_reach_only_tokens
  let sent (built : Except Error Runbook) : Option (List Host.Logged) :=
    built.toOption.map fun runbook => (Runbook.run (Script.services find) runbook events s).2.world.log
  have differ : sent (build secrets entries) ≠ sent (build secrets' entries') := by decide +kernel
  have builds : (build secrets entries).isOk ∧ (build secrets' entries').isOk := by decide +kernel
  have given : ∀ entry ∈ entries, entry.type = "jira" → ∀ settings, entry.jira = some settings →
      ∃ secret, settings.secret = some secret ∧ secret ≠ "" := by
    intro entry member _ settings there
    rcases List.mem_pair.1 member with rfl | rfl
    · cases there
    · cases there
      exact ⟨"a", rfl, by decide⟩
  refine ⟨direct _ _ _ given, defects _ _ _ _ rfl (by decide +kernel) _, ?_⟩
  match built : build secrets entries, built' : build secrets' entries' with
  | .ok runbook, .ok runbook' =>
      obtain ⟨-, -, alike⟩ := runs secrets secrets' entries entries' runbook runbook' rfl built built'
      obtain ⟨result, -, -, -, masked⟩ := alike find events s
      rw [built, built'] at differ
      exact ⟨runbook, runbook', rfl, rfl, result, masked, fun same => differ (congrArg some same)⟩
  | .error _, _ => simp [built, Except.isOk, Except.toBool] at builds
  | .ok _, .error _ => simp [built', Except.isOk, Except.toBool] at builds

end Responder.Runbook
