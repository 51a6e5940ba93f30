/-
# Responder.Proofs.Runbook.Condition -- what is asked of an entry

An entry has the type of its one section, whose address, texts, templates and secret
are as they must be, and its pattern is one (`Entry.Valid`).  Each of these is a
condition, and a condition that is broken is a defect (`Breaks`).  The conditions have
an order, which is the same for all entries (`Entry.conditions`): an entry is valid if
none of them is broken (`valid_iff_unbroken`), and otherwise one is the first
(`firstBroken_iff`).
-/
import Responder.Proofs.Except
import Responder.Runbook.Build

namespace Responder

set_option autoImplicit false

/-- The scheme of a URL. -/
def Url.Parsed.scheme : Url.Parsed → String
  | .web url => if url.secure then "https" else "http"
  | .other scheme => scheme

namespace Runbook

/-! ## What a section has -/

/-- The address of a section's webhook, if it has one, and its field. -/
def Section.address? : Section → Option (Field × String)
  | .slack settings => some (.slackUrl, settings.webhookUrl)
  | .jira settings => some (.jiraUrl, settings.webhookUrl)
  | .exec _ => none

/-- The other texts of a section that may not be empty. -/
def Section.required : Section → List (Field × String)
  | .slack settings => [(.slackMessage, settings.messageTemplate)]
  | .jira settings => [(.jiraSummary, settings.summaryTemplate), (.jiraProject, settings.projectKey)]
  | .exec settings => [(.execPath, settings.path)]

/-- The templates of a section: field, name and source. -/
def Section.templates : Section → List (Field × String × String)
  | .slack settings => [(.slackMessage, "slack", settings.messageTemplate)]
  | .jira settings => [(.jiraSummary, "jira-summary", settings.summaryTemplate),
      (.jiraDescription, "jira-desc", settings.descriptionTemplate)]
  | .exec settings => settings.args.mapIdx fun i source =>
      (.execArg i, "exec-arg[" ++ toString i ++ "]", source)

/-- The secret of a section: the direct one, or else the one found under a name; empty is none. -/
def JiraSection.Finds (secrets : Secrets) (settings : JiraSection) (secret : String) : Prop :=
  secret ≠ "" ∧ (settings.secret = some secret ∨
    (∀ direct, settings.secret = some direct → direct = "") ∧
      ∃ name, name ≠ "" ∧ settings.secretEnv = some name ∧ secrets name = some secret)

/-- An entry's type names the kind of a section, and that is the entry's section of this kind. -/
def Entry.Is (entry : Entry) (content : Section) : Prop :=
  entry.type = content.kind.name ∧ entry.sectionOf? content.kind = some content

/-! ## Valid entries -/

/-- A text is the URL of a webhook. -/
def IsWebhook (text : String) : Prop :=
  text ≠ "" ∧ ∃ parsed, Url.parse text = .ok parsed ∧ (parsed.scheme = "http" ∨ parsed.scheme = "https")

/-- A section has all that its action needs. -/
structure Section.Valid (secrets : Secrets) (content : Section) : Prop where
  address : ∀ field text, content.address? = some (field, text) → IsWebhook text
  required : ∀ field text, (field, text) ∈ content.required → text ≠ ""
  compiles : ∀ field name source, (field, name, source) ∈ content.templates →
    ∃ t, Template.compile name source = .ok t
  secret : ∀ settings, content = .jira settings →
    ∃ secret, settings.Finds secrets secret ∧ isHeaderValue secret

/-- An entry has the one section that its type names, and all is well with it. -/
structure Entry.Valid (secrets : Secrets) (entry : Entry) : Prop where
  content : ∃ content, entry.Is content ∧ content.Valid secrets
  alone : ∀ kind : Action.Kind, entry.type ≠ kind.name → entry.sectionOf? kind = none
  pattern : ∀ source, entry.regex = some source → source ≠ "" →
    ∃ regex, Pattern.Regex.parse? source = some regex

/-! ## Conditions -/

/-- What is asked of an entry. -/
inductive Condition where
  | type
  /-- The entry has no section of this kind if its type is another. -/
  | noOther (kind : Action.Kind)
  | content
  | addressGiven
  | address
  | scheme
  | given (field : Field)
  | compiles (field : Field)
  | secretFound
  | secretLegal
  | pattern

/-- The conditions in the order in which they count; the templates of arguments are as many as the
arguments. -/
def Entry.conditions (entry : Entry) : List Condition :=
  [.type, .noOther .slack, .noOther .jira, .noOther .exec, .content, .addressGiven, .address, .scheme,
    .given .slackMessage, .given .jiraSummary, .given .jiraProject, .given .execPath,
    .compiles .slackMessage, .compiles .jiraSummary, .compiles .jiraDescription] ++
  (List.range (entry.exec.elim 0 (·.args.length))).map (fun i => .compiles (.execArg i)) ++
  [.secretFound, .secretLegal, .pattern]

/-- A condition is broken, which is a defect. -/
inductive Breaks (secrets : Secrets) (entry : Entry) : Condition → Defect → Prop where
  | type (unknown : ∀ kind : Action.Kind, entry.type ≠ kind.name) :
      Breaks secrets entry .type (.unknownType entry.type)
  | noOther {kind other : Action.Kind} (type : entry.type = kind.name) (differs : other ≠ kind)
      (present : (entry.sectionOf? other).isSome) :
      Breaks secrets entry (.noOther other) (.conflictingSection kind other)
  | content {kind : Action.Kind} (type : entry.type = kind.name) (missing : entry.sectionOf? kind = none) :
      Breaks secrets entry .content (.missingSection kind)
  | addressGiven {content : Section} {field : Field} (is : entry.Is content)
      (empty : content.address? = some (field, "")) :
      Breaks secrets entry .addressGiven (.missingField field)
  | address {content : Section} {field : Field} {text : String} {cause : Url.Error} (is : entry.Is content)
      (has : content.address? = some (field, text)) (noUrl : Url.parse text = .error cause) :
      Breaks secrets entry .address (.invalidUrl field cause)
  | scheme {content : Section} {field : Field} {text : String} {parsed : Url.Parsed} (is : entry.Is content)
      (has : content.address? = some (field, text)) (url : Url.parse text = .ok parsed)
      (http : parsed.scheme ≠ "http") (https : parsed.scheme ≠ "https") :
      Breaks secrets entry .scheme (.unsupportedScheme field parsed.scheme)
  | given {content : Section} {field : Field} (is : entry.Is content)
      (empty : (field, "") ∈ content.required) : Breaks secrets entry (.given field) (.missingField field)
  | compiles {content : Section} {field : Field} {name source : String} {cause : Template.Error}
      (is : entry.Is content) (has : (field, name, source) ∈ content.templates)
      (refused : Template.compile name source = .error cause) :
      Breaks secrets entry (.compiles field) (.template field cause)
  | secretFound {settings : JiraSection} (is : entry.Is (.jira settings))
      (missing : ∀ secret, ¬settings.Finds secrets secret) :
      Breaks secrets entry .secretFound .missingSecret
  | secretLegal {settings : JiraSection} {secret : String} (is : entry.Is (.jira settings))
      (found : settings.Finds secrets secret) (illegal : isHeaderValue secret = false) :
      Breaks secrets entry .secretLegal .invalidSecret
  | pattern {source : String} (given : entry.regex = some source) (nonempty : source ≠ "")
      (noPattern : Pattern.Regex.parse? source = none) : Breaks secrets entry .pattern (.invalidPattern source)

variable {secrets : Secrets} {entry : Entry} {content content' : Section}

/-! ## Kinds, sections and secrets -/

theorem name_injective {kind other : Action.Kind} (same : kind.name = other.name) : kind = other := by
  cases kind <;> cases other <;> first | rfl | exact absurd same (by decide)

theorem ofName?_eq_some_iff {name : String} {kind : Action.Kind} :
    Action.Kind.ofName? name = some kind ↔ name = kind.name := by
  constructor
  · intro known
    have found : Action.Kind.all.find? (fun kind => kind.name = name) = some kind := known
    have matched := List.find?_some found
    exact (of_decide_eq_true matched).symm
  · rintro rfl
    cases kind <;> rfl

theorem kindOf_eq_ok_iff {name : String} {kind : Action.Kind} :
    kindOf name = .ok kind ↔ name = kind.name := by
  rw [← ofName?_eq_some_iff, kindOf]
  cases Action.Kind.ofName? name <;> simp

theorem kindOf_eq_error_iff {name : String} {d : Defect} :
    kindOf name = .error d ↔ (∀ kind : Action.Kind, name ≠ kind.name) ∧ d = .unknownType name := by
  have unnamed : Action.Kind.ofName? name = none ↔ ∀ kind : Action.Kind, name ≠ kind.name := by
    simp only [Option.eq_none_iff_forall_ne_some, ne_eq, ofName?_eq_some_iff]
  rw [← unnamed, kindOf]
  cases Action.Kind.ofName? name <;> simp [eq_comm]

theorem kind_of_sectionOf? {kind : Action.Kind} (there : entry.sectionOf? kind = some content) :
    content.kind = kind := by
  cases kind <;> obtain ⟨settings, -, rfl⟩ := Option.map_eq_some_iff.1 there <;> rfl

/-- The content of an entry is the section that its type names. -/
theorem is_of_content (found : entry.content = .ok content) : entry.Is content := by
  obtain ⟨kind, named, rest⟩ := bind_eq_ok_iff.1 found
  have type := kindOf_eq_ok_iff.1 named
  split at rest
  · cases rest
  · cases there : entry.sectionOf? kind with
    | none => rw [there] at rest; cases rest
    | some settings =>
        rw [there] at rest
        cases rest
        have same := kind_of_sectionOf? there
        exact ⟨same ▸ type, same ▸ there⟩

/-- An entry has one section of the kind that its type names. -/
theorem Entry.Is.unique (is : entry.Is content) (is' : entry.Is content') : content = content' := by
  obtain ⟨type, there⟩ := is
  obtain ⟨type', there'⟩ := is'
  rw [name_injective (type.symm.trans type'), there'] at there
  exact (Option.some.inj there).symm

theorem Entry.Is.jira {settings : JiraSection} (is : entry.Is (.jira settings)) : entry.jira = some settings := by
  simpa [Entry.sectionOf?, Section.kind] using is.2

theorem Entry.Is.exec {settings : ExecSection} (is : entry.Is (.exec settings)) : entry.exec = some settings := by
  simpa [Entry.sectionOf?, Section.kind] using is.2

theorem finds_iff {settings : JiraSection} {secret : String} :
    settings.Finds secrets secret ↔ secrets.resolve settings.secret settings.secretEnv = some secret := by
  unfold JiraSection.Finds Secrets.resolve
  simp only [Option.or_eq_some_iff, Option.filter_eq_some_iff, Option.filter_eq_none_iff,
    Option.bind_eq_some_iff, decide_eq_true_eq, ne_eq, Decidable.not_not]
  constructor
  · rintro ⟨nonempty, direct | ⟨empty, name, named, found, value⟩⟩
    · exact .inl ⟨direct, nonempty⟩
    · exact .inr ⟨empty, ⟨name, ⟨found, named⟩, value⟩, nonempty⟩
  · rintro (⟨direct, nonempty⟩ | ⟨empty, ⟨name, ⟨found, named⟩, value⟩, nonempty⟩)
    · exact ⟨nonempty, .inl direct⟩
    · exact ⟨nonempty, .inr ⟨empty, name, named, found, value⟩⟩

/-- A section has at most one secret. -/
theorem JiraSection.Finds.unique {settings : JiraSection} {secret secret' : String}
    (found : settings.Finds secrets secret) (found' : settings.Finds secrets secret') : secret = secret' :=
  Option.some.inj ((finds_iff.1 found).symm.trans (finds_iff.1 found'))

/-- Every template of an entry has its condition. -/
theorem compiles_mem_conditions (is : entry.Is content) {field : Field} {name source : String}
    (has : (field, name, source) ∈ content.templates) : .compiles field ∈ entry.conditions := by
  cases content with
  | slack settings => simp_all [Section.templates, Entry.conditions]
  | jira settings =>
      simp only [Section.templates, List.mem_cons, Prod.mk.injEq, List.not_mem_nil, or_false] at has
      obtain ⟨rfl, -⟩ | ⟨rfl, -⟩ := has <;> simp [Entry.conditions]
  | exec settings =>
      obtain ⟨i, inside, same⟩ := List.mem_mapIdx.1 has
      cases same
      simp [Entry.conditions, is.exec, inside]

/-- Every text of an entry that may not be empty has its condition. -/
theorem given_mem_conditions {field : Field} {text : String} (has : (field, text) ∈ content.required) :
    .given field ∈ entry.conditions := by
  cases content with
  | slack settings | exec settings => simp_all [Section.required, Entry.conditions]
  | jira settings =>
      simp only [Section.required, List.mem_cons, Prod.mk.injEq, List.not_mem_nil, or_false] at has
      obtain ⟨rfl, -⟩ | ⟨rfl, -⟩ := has <;> simp [Entry.conditions]

/-! ## The first broken condition -/

section First

variable {κ δ : Type} (breaks : κ → δ → Prop)

/-- None of several conditions is broken. -/
def Unbroken (cs : List κ) : Prop := ∀ c ∈ cs, ∀ d, ¬breaks c d

/-- The first of several conditions that is broken is so by this defect. -/
inductive FirstBroken : List κ → δ → Prop where
  | here {c : κ} {cs : List κ} {d : δ} (broken : breaks c d) : FirstBroken (c :: cs) d
  | later {c : κ} {cs : List κ} {d : δ} (kept : ∀ d', ¬breaks c d') (behind : FirstBroken cs d) :
      FirstBroken (c :: cs) d

variable {breaks} {cs ds : List κ} {c : κ} {d : δ}

theorem unbroken_nil : Unbroken breaks [] := List.forall_mem_nil _

theorem not_firstBroken_nil : ¬FirstBroken breaks [] d := by
  intro first
  cases first

theorem unbroken_cons : Unbroken breaks (c :: cs) ↔ (∀ d, ¬breaks c d) ∧ Unbroken breaks cs :=
  List.forall_mem_cons

theorem Unbroken.append (first : Unbroken breaks cs) (second : Unbroken breaks ds) :
    Unbroken breaks (cs ++ ds) :=
  List.forall_mem_append.2 ⟨first, second⟩

theorem firstBroken_cons :
    FirstBroken breaks (c :: cs) d ↔ breaks c d ∨ (∀ d', ¬breaks c d') ∧ FirstBroken breaks cs d := by
  constructor
  · rintro (broken | ⟨kept, behind⟩)
    · exact .inl broken
    · exact .inr ⟨kept, behind⟩
  · rintro (broken | ⟨kept, behind⟩)
    · exact .here broken
    · exact .later kept behind

theorem firstBroken_append : FirstBroken breaks (cs ++ ds) d ↔
    FirstBroken breaks cs d ∨ Unbroken breaks cs ∧ FirstBroken breaks ds d := by
  induction cs with
  | nil => simp [unbroken_nil, not_firstBroken_nil]
  | cons c cs ih =>
      rw [List.cons_append, firstBroken_cons, firstBroken_cons, unbroken_cons, ih, and_or_left, ← or_assoc,
        and_assoc]

/-- No condition is broken unless one is the first. -/
theorem unbroken_iff : Unbroken breaks cs ↔ ∀ d, ¬FirstBroken breaks cs d := by
  induction cs with
  | nil => exact ⟨fun _ _ => not_firstBroken_nil, fun _ => unbroken_nil⟩
  | cons c cs ih =>
      rw [unbroken_cons, ih]
      constructor
      · rintro ⟨kept, unbroken⟩ d (broken | ⟨-, behind⟩)
        · exact kept d broken
        · exact unbroken d behind
      · intro none
        have kept (d : δ) : ¬breaks c d := fun broken => none d (.here broken)
        exact ⟨kept, fun d behind => none d (.later kept behind)⟩

/-- Where a condition is the first that is broken. -/
theorem firstBroken_iff : FirstBroken breaks cs d ↔
    ∃ front c back, cs = front ++ c :: back ∧ Unbroken breaks front ∧ breaks c d := by
  constructor
  · intro first
    induction first with
    | @here c cs d broken => exact ⟨[], c, cs, rfl, unbroken_nil, broken⟩
    | @later c cs d kept _ ih =>
        obtain ⟨front, c', back, rfl, unbroken, broken⟩ := ih
        exact ⟨c :: front, c', back, rfl, unbroken_cons.2 ⟨kept, unbroken⟩, broken⟩
  · rintro ⟨front, c, back, rfl, unbroken, broken⟩
    exact firstBroken_append.2 (.inr ⟨unbroken, .here broken⟩)

end First

/-! ## Valid entries break nothing -/

/-- A valid entry keeps every condition. -/
theorem Entry.Valid.keeps (valid : entry.Valid secrets) (c : Condition) (d : Defect) :
    ¬Breaks secrets entry c d := by
  obtain ⟨⟨content, is, sound⟩, alone, pattern⟩ := valid
  intro broken
  cases broken with
  | type unknown => exact unknown _ is.1
  | noOther type differs present =>
      rw [alone _ fun same => differs (name_injective (same.symm.trans type))] at present
      cases present
  | content type missing =>
      rw [name_injective (type.symm.trans is.1), is.2] at missing
      cases missing
  | addressGiven is' empty =>
      cases is.unique is'
      exact (sound.address _ _ empty).1 rfl
  | address is' has noUrl =>
      cases is.unique is'
      obtain ⟨-, parsed, url, -⟩ := sound.address _ _ has
      rw [noUrl] at url
      cases url
  | scheme is' has url http https =>
      cases is.unique is'
      obtain ⟨-, parsed, url', scheme⟩ := sound.address _ _ has
      rw [url] at url'
      cases url'
      exact scheme.elim http https
  | given is' empty =>
      cases is.unique is'
      exact sound.required _ _ empty rfl
  | compiles is' has refused =>
      cases is.unique is'
      obtain ⟨t, compiled⟩ := sound.compiles _ _ _ has
      rw [refused] at compiled
      cases compiled
  | secretFound is' missing =>
      cases is.unique is'
      obtain ⟨secret, found, -⟩ := sound.secret _ rfl
      exact missing secret found
  | secretLegal is' found illegal =>
      cases is.unique is'
      obtain ⟨secret', found', legal⟩ := sound.secret _ rfl
      rw [found'.unique found, illegal] at legal
      cases legal
  | pattern given nonempty noPattern =>
      obtain ⟨regex, read⟩ := pattern _ given nonempty
      rw [noPattern] at read
      cases read

/-! ## Entries that break nothing are valid -/

section

variable (unbroken : Unbroken (Breaks secrets entry) entry.conditions)
include unbroken

theorem exists_is_of_unbroken : ∃ content, entry.Is content := by
  obtain ⟨kind, type⟩ : ∃ kind : Action.Kind, entry.type = kind.name :=
    Classical.not_forall_not.1 fun unknown =>
      unbroken .type (by simp [Entry.conditions]) _ (.type unknown)
  cases there : entry.sectionOf? kind with
  | none => exact absurd (.content type there) (unbroken .content (by simp [Entry.conditions]) _)
  | some content =>
      have same := kind_of_sectionOf? there
      exact ⟨content, same ▸ type, same ▸ there⟩

theorem isWebhook_of_unbroken (is : entry.Is content) {field : Field} {text : String}
    (has : content.address? = some (field, text)) : IsWebhook text := by
  refine ⟨?_, ?_⟩
  · rintro rfl
    exact unbroken .addressGiven (by simp [Entry.conditions]) _ (.addressGiven is has)
  · cases url : Url.parse text with
    | error cause => exact absurd (.address is has url) (unbroken .address (by simp [Entry.conditions]) _)
    | ok parsed =>
        refine ⟨parsed, rfl, Classical.not_not.1 fun foreign => ?_⟩
        obtain ⟨http, https⟩ := not_or.1 foreign
        exact unbroken .scheme (by simp [Entry.conditions]) _ (.scheme is has url http https)

theorem compiles_of_unbroken (is : entry.Is content) {field : Field} {name source : String}
    (has : (field, name, source) ∈ content.templates) : ∃ t, Template.compile name source = .ok t := by
  cases compiled : Template.compile name source with
  | ok t => exact ⟨t, rfl⟩
  | error cause =>
      exact absurd (.compiles is has compiled)
        (unbroken (.compiles field) (compiles_mem_conditions is has) _)

theorem secret_of_unbroken {settings : JiraSection} (is : entry.Is (.jira settings)) :
    ∃ secret, settings.Finds secrets secret ∧ isHeaderValue secret := by
  obtain ⟨secret, found⟩ : ∃ secret, settings.Finds secrets secret :=
    Classical.not_forall_not.1 fun missing =>
      unbroken .secretFound (by simp [Entry.conditions]) _ (.secretFound is missing)
  refine ⟨secret, found, eq_true_of_ne_false fun illegal => ?_⟩
  exact unbroken .secretLegal (by simp [Entry.conditions]) _ (.secretLegal is found illegal)

theorem section_valid_of_unbroken (is : entry.Is content) : content.Valid secrets where
  address _ _ := isWebhook_of_unbroken unbroken is
  required := by
    rintro field text has rfl
    exact unbroken (.given field) (given_mem_conditions has) _ (.given is has)
  compiles _ _ _ := compiles_of_unbroken unbroken is
  secret := by
    rintro settings rfl
    exact secret_of_unbroken unbroken is

theorem alone_of_unbroken (is : entry.Is content) {other : Action.Kind} (differs : entry.type ≠ other.name) :
    entry.sectionOf? other = none := by
  cases present : entry.sectionOf? other with
  | none => rfl
  | some extra =>
      refine absurd (.noOther is.1 (fun same => differs (same ▸ is.1)) (by rw [present]; rfl))
        (unbroken (.noOther other) ?_ _)
      cases other <;> simp [Entry.conditions]

theorem pattern_of_unbroken {source : String} (given : entry.regex = some source) (nonempty : source ≠ "") :
    ∃ regex, Pattern.Regex.parse? source = some regex := by
  cases read : Pattern.Regex.parse? source with
  | some regex => exact ⟨regex, rfl⟩
  | none => exact absurd (.pattern given nonempty read) (unbroken .pattern (by simp [Entry.conditions]) _)

theorem valid_of_unbroken : entry.Valid secrets := by
  obtain ⟨content, is⟩ := exists_is_of_unbroken unbroken
  exact ⟨⟨content, is, section_valid_of_unbroken unbroken is⟩, fun _ => alone_of_unbroken unbroken is,
    fun _ => pattern_of_unbroken unbroken⟩

end

/-- **An entry is valid if and only if none of its conditions is broken.** -/
theorem valid_iff_unbroken : entry.Valid secrets ↔ Unbroken (Breaks secrets entry) entry.conditions :=
  ⟨fun valid c _ => valid.keeps c, valid_of_unbroken⟩

end Runbook

end Responder
