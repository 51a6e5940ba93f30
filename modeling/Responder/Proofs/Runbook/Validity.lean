/-
# Responder.Proofs.Runbook.Validity -- an entry builds if and only if it is valid

Every check answers for some conditions: it fails exactly if one of them is broken, and
with the defect of the first (`Answers`).  Checks one after another answer for their
conditions one after another (`Answers.bind`), and a condition that cannot be broken may
stand anywhere (`Unbroken.before`); so building an entry answers for all conditions in the
order they have (`build_answers`).
-/
import Responder.Proofs.Runbook.Condition

namespace Responder

set_option autoImplicit false

/-- A URL that is not of the web has another scheme. -/
theorem Url.scheme_of_parse {text scheme : String} (read : Url.parse text = .ok (.other scheme)) :
    scheme ≠ "http" ∧ scheme ≠ "https" := by
  have foreign (chars : List Char) (notWeb : ∀ secure, Family.ofScheme chars ≠ .web secure) :
      String.ofList chars ≠ "http" ∧ String.ofList chars ≠ "https" := by
    constructor
    · intro http
      exact notWeb false (by simp [Family.ofScheme, http])
    · intro https
      exact notWeb true (by simp [Family.ofScheme, https])
  unfold Url.parse at read
  split at read
  · cases read
  · rename_i chars rest _
    split at read
    · obtain ⟨url, -, same⟩ := bind_eq_ok_iff.1 read
      cases same
    all_goals
      rename_i family
      dsimp only at read
      obtain ⟨_, -, same⟩ := bind_eq_ok_iff.1 read
      cases same
      exact foreign chars (by simp [family])

namespace Runbook

section Answers

variable {κ δ : Type} {α β : Type} {breaks : κ → δ → Prop} {cs ds : List κ} {c : κ} {x : Except δ α}
  {f : α → Except δ β}

/-- A check fails if and only if one of its conditions is broken, by the defect of the first. -/
def Answers (breaks : κ → δ → Prop) (cs : List κ) (x : Except δ α) : Prop :=
  ∀ d, x = .error d ↔ FirstBroken breaks cs d

theorem answers_ok {a : α} (unbroken : Unbroken breaks cs) : Answers breaks cs (.ok a) := by
  intro d
  simp [unbroken_iff.1 unbroken d]

theorem answers_one (one : ∀ d, x = .error d ↔ breaks c d) : Answers breaks [c] x := by
  intro d
  rw [one, firstBroken_cons]
  simp [not_firstBroken_nil]

/-- A check has a value if and only if none of its conditions is broken. -/
theorem Answers.exists_ok_iff (answers : Answers breaks cs x) :
    (∃ a, x = .ok a) ↔ Unbroken breaks cs := by
  simp only [unbroken_iff, ← answers _]
  cases x <;> simp

/-- Checks one after another answer for their conditions one after another. -/
theorem Answers.bind (first : Answers breaks cs x) (later : ∀ a, x = .ok a → Answers breaks ds (f a)) :
    Answers breaks (cs ++ ds) (x >>= f) := by
  intro d
  rw [bind_eq_error_iff, firstBroken_append, first d, ← first.exists_ok_iff]
  refine or_congr_right ⟨?_, ?_⟩
  · rintro ⟨a, goes, failed⟩
    exact ⟨⟨a, goes⟩, (later a goes d).1 failed⟩
  · rintro ⟨⟨a, goes⟩, behind⟩
    exact ⟨a, goes, (later a goes d).2 behind⟩

theorem Answers.map (answers : Answers breaks cs x) (g : α → β) :
    Answers breaks cs (x >>= fun a => .ok (g a)) := by
  rw [← List.append_nil cs]
  exact answers.bind fun a _ => answers_ok unbroken_nil

/-- Conditions that are not broken may stand in front. -/
theorem Unbroken.before (unbroken : Unbroken breaks cs) (answers : Answers breaks ds x) :
    Answers breaks (cs ++ ds) x := by
  intro d
  rw [answers d, firstBroken_append]
  simp [unbroken, unbroken_iff.1 unbroken d]

end Answers

variable {secrets : Secrets} {entry : Entry} {content : Section} {field : Field} {text : String} {d : Defect}

/-! ## The conditions of an entry with a section -/

theorem breaks_addressGiven_iff (is : entry.Is content) (has : content.address? = some (field, text)) :
    Breaks secrets entry .addressGiven d ↔ text = "" ∧ d = .missingField field := by
  constructor
  · intro broken
    cases broken with
    | addressGiven is' empty =>
        cases is.unique is'
        cases has.symm.trans empty
        exact ⟨rfl, rfl⟩
  · rintro ⟨rfl, rfl⟩
    exact .addressGiven is has

theorem breaks_address_iff (is : entry.Is content) (has : content.address? = some (field, text)) :
    Breaks secrets entry .address d ↔
      ∃ cause, Url.parse text = .error cause ∧ d = .invalidUrl field cause := by
  constructor
  · intro broken
    cases broken with
    | address is' has' noUrl =>
        cases is.unique is'
        cases has.symm.trans has'
        exact ⟨_, noUrl, rfl⟩
  · rintro ⟨cause, noUrl, rfl⟩
    exact .address is has noUrl

theorem breaks_scheme_iff (is : entry.Is content) (has : content.address? = some (field, text)) :
    Breaks secrets entry .scheme d ↔
      ∃ scheme, Url.parse text = .ok (.other scheme) ∧ d = .unsupportedScheme field scheme := by
  constructor
  · intro broken
    cases broken with
    | @scheme _ _ _ parsed is' has' url http https =>
        cases is.unique is'
        cases has.symm.trans has'
        cases parsed with
        | other scheme => exact ⟨scheme, url, rfl⟩
        | web u => cases secure : u.secure <;> simp [Url.Parsed.scheme, secure] at http https
  · rintro ⟨scheme, url, rfl⟩
    obtain ⟨http, https⟩ := Url.scheme_of_parse url
    exact .scheme is has url http https

theorem breaks_given_iff (is : entry.Is content) :
    Breaks secrets entry (.given field) d ↔ (field, "") ∈ content.required ∧ d = .missingField field := by
  constructor
  · intro broken
    cases broken with
    | given is' empty =>
        cases is.unique is'
        exact ⟨empty, rfl⟩
  · rintro ⟨empty, rfl⟩
    exact .given is empty

theorem breaks_compiles_iff (is : entry.Is content) :
    Breaks secrets entry (.compiles field) d ↔ ∃ name source cause,
      (field, name, source) ∈ content.templates ∧ Template.compile name source = .error cause ∧
        d = .template field cause := by
  constructor
  · intro broken
    cases broken with
    | compiles is' has refused =>
        cases is.unique is'
        exact ⟨_, _, _, has, refused, rfl⟩
  · rintro ⟨name, source, cause, has, refused, rfl⟩
    exact .compiles is has refused

theorem breaks_secretFound_iff {settings : JiraSection} (is : entry.Is (.jira settings)) :
    Breaks secrets entry .secretFound d ↔
      secrets.resolve settings.secret settings.secretEnv = none ∧ d = .missingSecret := by
  constructor
  · intro broken
    cases broken with
    | secretFound is' missing =>
        cases is.unique is'
        refine ⟨Option.eq_none_iff_forall_ne_some.2 fun secret there => ?_, rfl⟩
        exact missing secret (finds_iff.2 there)
  · rintro ⟨none, rfl⟩
    refine .secretFound is fun secret found => ?_
    rw [finds_iff, none] at found
    cases found

theorem breaks_secretLegal_iff {settings : JiraSection} (is : entry.Is (.jira settings)) :
    Breaks secrets entry .secretLegal d ↔
      ∃ secret, secrets.resolve settings.secret settings.secretEnv = some secret ∧
        isHeaderValue secret = false ∧ d = .invalidSecret := by
  constructor
  · intro broken
    cases broken with
    | secretLegal is' found illegal =>
        cases is.unique is'
        exact ⟨_, finds_iff.1 found, illegal, rfl⟩
  · rintro ⟨secret, there, illegal, rfl⟩
    exact .secretLegal is (finds_iff.2 there) illegal

theorem unbroken_address (is : entry.Is content) (none : content.address? = none) :
    Unbroken (Breaks secrets entry) [.addressGiven, .address, .scheme] := by
  have no (field : Field) (text : String) {other : Section} (is' : entry.Is other) :
      other.address? ≠ some (field, text) := by
    rw [← is.unique is', none]
    simp
  simp only [unbroken_cons]
  refine ⟨?_, ?_, ?_, unbroken_nil⟩
  · rintro d (_ | _ | _ | ⟨is', empty⟩)
    exact no _ _ is' empty
  · rintro d (_ | _ | _ | _ | ⟨is', has, -⟩)
    exact no _ _ is' has
  · rintro d (_ | _ | _ | _ | _ | ⟨is', has, -⟩)
    exact no _ _ is' has

/-- Only an issue needs a secret. -/
theorem unbroken_secret (is : entry.Is content) (noIssue : content.kind ≠ .jira) :
    Unbroken (Breaks secrets entry) [.secretFound, .secretLegal] := by
  have other (settings : JiraSection) : ¬entry.Is (.jira settings) := fun is' =>
    noIssue (congrArg Section.kind (is.unique is'))
  simp only [unbroken_cons]
  refine ⟨?_, ?_, unbroken_nil⟩
  · rintro d (_ | _ | _ | _ | _ | _ | _ | _ | ⟨is', -⟩)
    exact other _ is'
  · rintro d (_ | _ | _ | _ | _ | _ | _ | _ | _ | ⟨is', -⟩)
    exact other _ is'

/-! ## What each check answers for -/

theorem required_eq_error_iff : required field text = .error d ↔ text = "" ∧ d = .missingField field := by
  unfold required
  by_cases empty : text = "" <;> simp [empty, eq_comm]

theorem template_eq_error_iff {name source : String} : template field name source = .error d ↔
    ∃ cause, Template.compile name source = .error cause ∧ d = .template field cause := by
  unfold template
  cases Template.compile name source <;> simp [Except.mapError, eq_comm]

theorem address_answers (is : entry.Is content) (has : content.address? = some (field, text)) :
    Answers (Breaks secrets entry) [.addressGiven, .address, .scheme] (address field text) := by
  have given : Answers (Breaks secrets entry) [.addressGiven] (required field text) :=
    answers_one fun d => by rw [required_eq_error_iff, breaks_addressGiven_iff is has]
  refine given.bind fun _ _ d => ?_
  rw [firstBroken_cons, firstBroken_cons]
  simp only [breaks_address_iff is has, breaks_scheme_iff is has, not_firstBroken_nil, and_false, or_false]
  rcases Url.parse text with cause | (url | scheme) <;>
    simp [pure, Except.pure, throw, throwThe, MonadExceptOf.throw, eq_comm]

theorem required_answers (is : entry.Is content) (has : ∀ s, (field, s) ∈ content.required ↔ s = text) :
    Answers (Breaks secrets entry) [.given field] (required field text) :=
  answers_one fun d => by rw [required_eq_error_iff, breaks_given_iff is, has, eq_comm]

theorem template_answers {name source : String} (is : entry.Is content)
    (has : ∀ n s, (field, n, s) ∈ content.templates ↔ n = name ∧ s = source) :
    Answers (Breaks secrets entry) [.compiles field] (template field name source) :=
  answers_one fun d => by
    rw [template_eq_error_iff, breaks_compiles_iff is]
    simp [has]

/-! ## Sections -/

/-- The conditions that are about what stands in the section of an entry. -/
def Entry.sectionConditions (entry : Entry) : List Condition :=
  [.addressGiven, .address, .scheme, .given .slackMessage, .given .jiraSummary, .given .jiraProject,
    .given .execPath, .compiles .slackMessage, .compiles .jiraSummary, .compiles .jiraDescription] ++
  ((List.range (entry.exec.elim 0 (·.args.length))).map (fun i => .compiles (.execArg i)) ++
  [.secretFound, .secretLegal])

theorem conditions_eq (entry : Entry) : entry.conditions =
    [.type, .noOther .slack, .noOther .jira, .noOther .exec, .content] ++
      (entry.sectionConditions ++ [.pattern]) := by
  simp [Entry.conditions, Entry.sectionConditions]

/-- Only a program has arguments. -/
theorem unbroken_args (is : entry.Is content) (noProgram : content.kind ≠ .exec) (n : Nat) :
    Unbroken (Breaks secrets entry) ((List.range n).map fun i => .compiles (.execArg i)) := by
  intro c member d
  obtain ⟨i, -, rfl⟩ := List.mem_map.1 member
  rw [breaks_compiles_iff is]
  cases content with
  | slack settings | jira settings => simp [Section.templates]
  | exec settings => exact absurd rfl noProgram

theorem slack_answers {settings : SlackSection} (is : entry.Is (.slack settings)) :
    Answers (Breaks secrets entry) entry.sectionConditions settings.build := by
  have noText : Unbroken (Breaks secrets entry)
      [.given .jiraSummary, .given .jiraProject, .given .execPath] := by
    simp [Unbroken, breaks_given_iff is, Section.required]
  have noTemplate : Unbroken (Breaks secrets entry) [.compiles .jiraSummary, .compiles .jiraDescription] := by
    simp [Unbroken, breaks_compiles_iff is, Section.templates]
  have noSecret : Unbroken (Breaks secrets entry) [.secretFound, .secretLegal] :=
    unbroken_secret is (by simp [Section.kind])
  refine (address_answers is rfl).bind fun url _ => ?_
  refine Answers.bind (required_answers is (by simp [Section.required])) fun _ _ => ?_
  refine noText.before (Answers.bind (template_answers is (by simp [Section.templates])) fun _ _ => ?_)
  exact answers_ok (noTemplate.append ((unbroken_args is (by simp [Section.kind]) _).append noSecret))

theorem token_answers {settings : JiraSection} (is : entry.Is (.jira settings)) :
    Answers (Breaks secrets entry) [.secretFound, .secretLegal] (settings.token secrets) := by
  intro d
  rw [firstBroken_cons, firstBroken_cons]
  simp only [breaks_secretFound_iff is, breaks_secretLegal_iff is, not_firstBroken_nil, and_false, or_false]
  unfold JiraSection.token
  rcases secrets.resolve settings.secret settings.secretEnv with _ | secret
  · simp only [Except.error.injEq, true_and, reduceCtorEq, false_and, exists_false, and_false, or_false]
    exact eq_comm
  · cases legal : isHeaderValue secret <;> simp [legal]
    exact eq_comm

theorem jira_answers {settings : JiraSection} (is : entry.Is (.jira settings)) :
    Answers (Breaks secrets entry) entry.sectionConditions (settings.build secrets) := by
  have noMessage : Unbroken (Breaks secrets entry) [.given .slackMessage] := by
    simp [Unbroken, breaks_given_iff is, Section.required]
  have noPath : Unbroken (Breaks secrets entry) [.given .execPath] := by
    simp [Unbroken, breaks_given_iff is, Section.required]
  have noTemplate : Unbroken (Breaks secrets entry) [.compiles .slackMessage] := by
    simp [Unbroken, breaks_compiles_iff is, Section.templates]
  refine (address_answers is rfl).bind fun url _ => noMessage.before ?_
  refine Answers.bind (required_answers is (by simp [Section.required])) fun _ _ => ?_
  refine Answers.bind (required_answers is (by simp [Section.required])) fun _ _ => ?_
  refine (noPath.append noTemplate).before ?_
  refine Answers.bind (template_answers is (by simp [Section.templates])) fun summary _ => ?_
  refine Answers.bind (template_answers is (by simp [Section.templates])) fun description _ => ?_
  refine (unbroken_args is (by simp [Section.kind]) _).before ?_
  exact (token_answers is).map _

/-- The templates of arguments answer for one condition each, from the first on. -/
theorem buildArgs_answers {breaks : Condition → Defect → Prop} {index : Nat} {sources : List String}
    (each : ∀ i source, sources[i]? = some source → ∀ d, breaks (.compiles (.execArg (index + i))) d ↔
      ∃ cause, Template.compile ("exec-arg[" ++ toString (index + i) ++ "]") source = .error cause ∧
        d = .template (.execArg (index + i)) cause) :
    Answers breaks ((List.range' index sources.length).map fun i => .compiles (.execArg i))
      (ExecSection.buildArgs index sources) := by
  induction sources generalizing index with
  | nil => exact answers_ok unbroken_nil
  | cons source rest ih =>
      have first : Answers breaks [.compiles (.execArg index)]
          (template (.execArg index) ("exec-arg[" ++ toString index ++ "]") source) :=
        answers_one fun d => by
          rw [template_eq_error_iff]
          exact (each 0 source rfl d).symm
      have later := @ih (index + 1) fun i s there d => by
        have next : index + 1 + i = index + (i + 1) := by omega
        rw [next]
        exact each (i + 1) s there d
      rw [List.length_cons, List.range'_succ, List.map_cons, ExecSection.buildArgs]
      exact first.bind fun t _ => later.map (t :: ·)

theorem exec_answers {settings : ExecSection} (is : entry.Is (.exec settings)) :
    Answers (Breaks secrets entry) entry.sectionConditions settings.build := by
  have noAddress : Unbroken (Breaks secrets entry) [.addressGiven, .address, .scheme] :=
    unbroken_address is rfl
  have noText : Unbroken (Breaks secrets entry)
      [.given .slackMessage, .given .jiraSummary, .given .jiraProject] := by
    simp [Unbroken, breaks_given_iff is, Section.required]
  have noTemplate : Unbroken (Breaks secrets entry)
      [.compiles .slackMessage, .compiles .jiraSummary, .compiles .jiraDescription] := by
    simp [Unbroken, breaks_compiles_iff is, Section.templates]
  have args : Answers (Breaks secrets entry)
      ((List.range (entry.exec.elim 0 (·.args.length))).map fun i => .compiles (.execArg i))
      (ExecSection.buildArgs 0 settings.args) := by
    rw [is.exec, Option.elim_some, List.range_eq_range']
    refine buildArgs_answers fun i source inside d => ?_
    rw [breaks_compiles_iff is, Nat.zero_add]
    have here (name s : String) : (.execArg i, name, s) ∈ (Section.exec settings).templates ↔
        name = "exec-arg[" ++ toString i ++ "]" ∧ s = source := by
      simp only [Section.templates, List.mem_mapIdx, Prod.mk.injEq, Field.execArg.injEq]
      constructor
      · rintro ⟨j, bound, rfl, rfl, rfl⟩
        exact ⟨rfl, by simpa [bound] using inside⟩
      · rintro ⟨rfl, rfl⟩
        obtain ⟨bound, at_⟩ := List.getElem?_eq_some_iff.1 inside
        exact ⟨i, bound, rfl, rfl, at_⟩
    simp [here]
  refine noAddress.before (noText.before ?_)
  refine Answers.bind (required_answers is (by simp [Section.required])) fun _ _ => ?_
  refine noTemplate.before (args.bind fun ts _ => ?_)
  exact answers_ok (unbroken_secret is (by simp [Section.kind]))

theorem section_answers (is : entry.Is content) :
    Answers (Breaks secrets entry) entry.sectionConditions (content.build secrets) := by
  cases content with
  | slack settings => exact (slack_answers is).map _
  | jira settings => exact (jira_answers is).map _
  | exec settings => exact (exec_answers is).map _

/-! ## Entries -/

theorem breaks_type_iff : Breaks secrets entry .type d ↔
    (∀ kind : Action.Kind, entry.type ≠ kind.name) ∧ d = .unknownType entry.type := by
  constructor
  · rintro ⟨unknown⟩
    exact ⟨unknown, rfl⟩
  · rintro ⟨unknown, rfl⟩
    exact .type unknown

theorem breaks_noOther_iff {kind other : Action.Kind} (type : entry.type = kind.name) :
    Breaks secrets entry (.noOther other) d ↔
      ((entry.sectionOf? other).isSome ∧ other ≠ kind) ∧ d = .conflictingSection kind other := by
  constructor
  · intro broken
    cases broken with
    | noOther type' differs present =>
        cases name_injective (type.symm.trans type')
        exact ⟨⟨present, differs⟩, rfl⟩
  · rintro ⟨⟨present, differs⟩, rfl⟩
    exact .noOther type differs present

theorem breaks_content_iff {kind : Action.Kind} (type : entry.type = kind.name) :
    Breaks secrets entry .content d ↔ entry.sectionOf? kind = none ∧ d = .missingSection kind := by
  constructor
  · intro broken
    cases broken with
    | content type' missing =>
        cases name_injective (type.symm.trans type')
        exact ⟨missing, rfl⟩
  · rintro ⟨missing, rfl⟩
    exact .content type missing

theorem breaks_pattern_iff : Breaks secrets entry .pattern d ↔
    ∃ source, entry.pattern? = some source ∧ Pattern.Regex.parse? source = none ∧
      d = .invalidPattern source := by
  have given (source : String) : entry.pattern? = some source ↔ entry.regex = some source ∧ source ≠ "" := by
    simp [Entry.pattern?, Option.filter_eq_some_iff]
  constructor
  · intro broken
    cases broken with
    | pattern regex nonempty noPattern => exact ⟨_, (given _).2 ⟨regex, nonempty⟩, noPattern, rfl⟩
  · rintro ⟨source, there, noPattern, rfl⟩
    obtain ⟨regex, nonempty⟩ := (given source).1 there
    exact .pattern regex nonempty noPattern

/-- The first of several kinds of which there is a section that does not belong is reported. -/
theorem noOther_answers {kind : Action.Kind} (type : entry.type = kind.name) {cs : List Condition}
    {x : Except Defect Section} (rest : Answers (Breaks secrets entry) cs x) (kinds : List Action.Kind) :
    Answers (Breaks secrets entry) (kinds.map .noOther ++ cs)
      (match kinds.find? fun other => (entry.sectionOf? other).isSome && other != kind with
      | some extra => .error (.conflictingSection kind extra)
      | none => x) := by
  induction kinds with
  | nil => exact rest
  | cons other kinds ih =>
      intro d
      rw [List.map_cons, List.cons_append, firstBroken_cons, ← ih d, List.find?_cons]
      simp only [breaks_noOther_iff type]
      cases test : (entry.sectionOf? other).isSome && other != kind with
      | true =>
          have extra : (entry.sectionOf? other).isSome ∧ other ≠ kind := by simpa using test
          simp [extra, eq_comm (b := d)]
      | false =>
          have proper : ¬((entry.sectionOf? other).isSome ∧ other ≠ kind) := by simpa using test
          simp only [proper, false_and, not_false_eq_true, implies_true, true_and, false_or]

theorem content_answers : Answers (Breaks secrets entry)
    [.type, .noOther .slack, .noOther .jira, .noOther .exec, .content] entry.content := by
  have type : Answers (Breaks secrets entry) [.type] (kindOf entry.type) :=
    answers_one fun d => by rw [kindOf_eq_error_iff, breaks_type_iff]
  refine type.bind fun kind named => ?_
  have type := kindOf_eq_ok_iff.1 named
  refine noOther_answers type (answers_one fun d => ?_) Action.Kind.all
  rw [breaks_content_iff type]
  cases entry.sectionOf? kind <;> simp [eq_comm]

theorem filter_answers : Answers (Breaks secrets entry) [.pattern] (filter entry.pattern?) :=
  answers_one fun d => by
    rw [breaks_pattern_iff, filter.eq_def]
    cases entry.pattern? with
    | none => simp
    | some source =>
        cases read : Pattern.Regex.parse? source <;> simp [Action.Filter.ofSource?, read, eq_comm]

/-- Building an entry answers for its conditions, in their order. -/
theorem build_answers (secrets : Secrets) (entry : Entry) :
    Answers (Breaks secrets entry) entry.conditions (entry.build secrets) := by
  rw [conditions_eq]
  refine content_answers.bind fun content found => ?_
  exact (section_answers (is_of_content found)).bind fun action _ => filter_answers.map _

/-- **An entry builds if and only if it is valid**, and the defect of one that is not is that of the
first condition, in their fixed order, that it breaks. -/
theorem build_reports_first_defect (secrets : Secrets) (entry : Entry) :
    ((∃ step, entry.build secrets = .ok step) ↔ entry.Valid secrets) ∧
      ∀ defect, entry.build secrets = .error defect ↔ ∃ front c back, entry.conditions = front ++ c :: back ∧
        (∀ b ∈ front, ∀ other, ¬Breaks secrets entry b other) ∧ Breaks secrets entry c defect := by
  refine ⟨?_, fun defect => ?_⟩
  · rw [valid_iff_unbroken]
    exact (build_answers secrets entry).exists_ok_iff
  · rw [build_answers secrets entry defect, firstBroken_iff]
    rfl

-- the second argument counts before the third and before the pattern
example : ((Entry.mk "exec" (some "(") none none
    (some ⟨"echo", ["a", "\x7b\x7b", "\x7b\x7b x \x7d\x7d"]⟩)).build Secrets.none).map (fun _ => ()) =
      .error (.template (.execArg 1) (.parse "exec-arg[1]" 1 .unclosedAction)) := by
  decide +kernel

end Runbook

end Responder
