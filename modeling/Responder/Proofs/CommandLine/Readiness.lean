/-
# Responder.Proofs.CommandLine.Readiness -- nothing is done unless everything is right

Before anything is done, both inputs are named and read, the report is an array of
objects, and the runbook's text denotes entries that all build (`Ready`).  A command
line that is not ready ends with an error of its own and leaves the situation as it
found it, whatever the world had in store (`ready_or_refused`); one that is ready
ends as its runbook's run does (`execute_of_ready`).  Words that stop the command
line change nothing either, but help and version are no failures
(`run_dispatches_only_when_ready`).
-/
import Responder.CommandLine.Run
import Responder.Host.Script
import Responder.Proofs.Event.Report
import Responder.Proofs.Runbook.Building

namespace Responder.CommandLine

set_option autoImplicit false

open Responder.Action (Situation Outcome)
open Responder.Runbook (ReadFile)

/-! ## Inputs -/

/-- Whether a path is named for an input: by its option, or else by its variable, if that is not empty. -/
def Names (o : Options) (env : Environment) (input : Input) (path : String) : Prop :=
  o.input input = some path ∨
    o.input input = none ∧ env.get? input.variable = some path ∧ path ≠ ""

theorem path_eq_ok_iff {o : Options} {env : Environment} {input : Input} {p : String} :
    path o env input = .ok p ↔ Names o env input p := by
  unfold path Names
  cases o.input input with
  | some named => simp
  | none =>
      cases env.get? input.variable with
      | none => simp
      | some named =>
          by_cases empty : named = ""
          · subst empty
            simp [Option.filter, eq_comm]
          · simp only [Option.filter, empty, ne_eq, not_false_eq_true, decide_true, if_true, Option.none_or,
              Except.ok.injEq, reduceCtorEq, Option.some.injEq, true_and, false_or]
            exact ⟨fun same => ⟨same, same ▸ empty⟩, And.left⟩

theorem readReport_eq_ok_iff {read : ReadFile} {p : String} {events : List Event} :
    readReport read p = .ok events ↔
      ∃ text, read p = .ok text ∧ Json.parse? text = some (.array (events.map Event.json)) := by
  unfold readReport
  cases read p with
  | error fault => simp
  | ok text =>
      simp only [Except.ok.injEq, exists_eq_left', ← Event.parseReport_eq_ok_iff]
      cases Event.parseReport text <;> simp [Except.mapError]

theorem inputs_eq_ok_iff {o : Options} {env : Environment} {read : ReadFile} {config : String}
    {events : List Event} :
    inputs o env read = .ok (config, events) ↔
      Names o env .config config ∧ ∃ p text, Names o env .report p ∧ read p = .ok text ∧
        Json.parse? text = some (.array (events.map Event.json)) := by
  constructor
  · intro found
    obtain ⟨c, named, rest⟩ := bind_eq_ok_iff.1 found
    obtain ⟨p, namedReport, rest⟩ := bind_eq_ok_iff.1 rest
    obtain ⟨listed, reported, made⟩ := bind_eq_ok_iff.1 rest
    cases made
    obtain ⟨text, there, parsed⟩ := readReport_eq_ok_iff.1 reported
    exact ⟨path_eq_ok_iff.1 named, p, text, path_eq_ok_iff.1 namedReport, there, parsed⟩
  · rintro ⟨named, p, text, namedReport, there, parsed⟩
    refine bind_eq_ok_iff.2 ⟨config, path_eq_ok_iff.2 named, ?_⟩
    refine bind_eq_ok_iff.2 ⟨p, path_eq_ok_iff.2 namedReport, ?_⟩
    exact bind_eq_ok_iff.2 ⟨events, readReport_eq_ok_iff.2 ⟨text, there, parsed⟩, rfl⟩

/-! ## Readiness -/

/-- Everything that a command line needs is there: the events that its report lists, and the runbook
of which every entry builds. -/
structure Ready (read : ReadFile) (env : Environment) (o : Options) (events : List Event)
    (runbook : Runbook) : Prop where
  report : ∃ p text, Names o env .report p ∧ read p = .ok text ∧
    Json.parse? text = some (.array (events.map Event.json))
  runbook : ∃ p text config, Names o env .config p ∧ read p = .ok text ∧
    Runbook.Config.parse? text = some config ∧
    List.Forall₂ (fun entry step => entry.build env.get? = .ok step) config.entries runbook.steps

/-- Whether an error comes from carrying a runbook out. -/
def Error.FromDispatch (e : Error) : Prop := ∃ failure, e = .runbook (.dispatch failure)

theorem ofFile_eq_ok_iff {read : ReadFile} {secrets : Runbook.Secrets} {p : String} {runbook : Runbook} :
    Runbook.ofFile read secrets p = .ok runbook ↔
      ∃ text config, read p = .ok text ∧ Runbook.Config.parse? text = some config ∧
        List.Forall₂ (fun entry step => entry.build secrets = .ok step) config.entries runbook.steps := by
  unfold Runbook.ofFile
  cases read p with
  | error fault => simp
  | ok text =>
      unfold Runbook.ofText
      cases parsed : Runbook.Config.parse? text <;> simp [parsed, Runbook.build_eq_ok_iff]

theorem not_fromDispatch_of_path {o : Options} {env : Environment} {input : Input} {e : Error}
    (failed : path o env input = .error e) : ¬e.FromDispatch := by
  rintro ⟨failure, rfl⟩
  unfold path at failed
  split at failed <;> cases failed

theorem not_fromDispatch_of_readReport {read : ReadFile} {p : String} {e : Error}
    (failed : readReport read p = .error e) : ¬e.FromDispatch := by
  rintro ⟨failure, rfl⟩
  unfold readReport at failed
  split at failed
  · cases failed
  · rename_i text _
    cases made : Event.parseReport text <;> rw [made] at failed <;> cases failed

theorem not_fromDispatch_of_inputs {o : Options} {env : Environment} {read : ReadFile} {e : Error}
    (failed : inputs o env read = .error e) : ¬e.FromDispatch := by
  rcases bind_eq_error_iff.1 failed with unnamed | ⟨config, -, rest⟩
  · exact not_fromDispatch_of_path unnamed
  · rcases bind_eq_error_iff.1 rest with unnamed | ⟨p, -, rest⟩
    · exact not_fromDispatch_of_path unnamed
    · rcases bind_eq_error_iff.1 rest with unread | ⟨events, -, done⟩
      · exact not_fromDispatch_of_readReport unread
      · cases done

theorem not_fromDispatch_of_ofFile {read : ReadFile} {secrets : Runbook.Secrets} {p : String}
    {e : Runbook.Error} (failed : Runbook.ofFile read secrets p = .error e) :
    ¬(Error.runbook e).FromDispatch := by
  rintro ⟨failure, same⟩
  cases same
  unfold Runbook.ofFile at failed
  cases there : read p with
  | error fault => rw [there] at failed; cases failed
  | ok text =>
      simp only [there, Runbook.ofText] at failed
      cases parsed : Runbook.Config.parse? text with
      | none => rw [parsed] at failed; cases failed
      | some config =>
          simp only [parsed] at failed
          obtain ⟨place, defect, -, same⟩ := Runbook.build_eq_error_iff.1 failed
          cases same

/-! ## Command lines -/

section

variable {σ : Type} {wording : Text.Wording} {services : Host.Services σ} {read : ReadFile}
  {env : Environment} {o : Options} {s : Situation σ}

/-- A ready command line does what its runbook does for the events of the report. -/
theorem execute_of_ready {events : List Event} {runbook : Runbook} (ready : Ready read env o events runbook) :
    execute services read env o s =
      ((runbook.run services events s).1.mapError .runbook, (runbook.run services events s).2) := by
  obtain ⟨config, text, entries, named, there, parsed, built⟩ := ready.runbook
  have found : inputs o env read = .ok (config, events) := inputs_eq_ok_iff.2 ⟨named, ready.report⟩
  have whole : Runbook.ofFile read env.get? config = .ok runbook :=
    ofFile_eq_ok_iff.2 ⟨text, entries, there, parsed, built⟩
  simp only [execute, found, Runbook.runFile, whole]

/-- A command line is ready, or has an error of its own and changes nothing. -/
theorem ready_or_refused (services : Host.Services σ) (read : ReadFile) (env : Environment) (o : Options)
    (s : Situation σ) :
    (∃ events runbook, Ready read env o events runbook) ∨
      ∃ e, ¬e.FromDispatch ∧ execute services read env o s = (.error e, s) := by
  -- paths and report come first, and the runbook is not looked at before both are right
  cases found : inputs o env read with
  | error e => exact .inr ⟨e, not_fromDispatch_of_inputs found, by simp only [execute, found]⟩
  | ok named =>
      obtain ⟨config, events⟩ := named
      obtain ⟨namedConfig, report⟩ := inputs_eq_ok_iff.1 found
      cases whole : Runbook.ofFile read env.get? config with
      | error e =>
          refine .inr ⟨.runbook e, not_fromDispatch_of_ofFile whole, ?_⟩
          simp only [execute, found, Runbook.runFile, whole]
          rfl
      | ok runbook =>
          obtain ⟨text, entries, there, parsed, built⟩ := ofFile_eq_ok_iff.1 whole
          exact .inl ⟨events, runbook, report, config, text, entries, namedConfig, there, parsed, built⟩

theorem fromDispatch_of_ready {events : List Event} {runbook : Runbook}
    (ready : Ready read env o events runbook) {e : Error} {after : Situation σ}
    (failed : execute services read env o s = (.error e, after)) : e.FromDispatch := by
  rw [execute_of_ready ready, Runbook.run] at failed
  cases ran : Dispatch.run (runbook.steps.map (Runbook.Step.executable services)) events s with
  | mk result last =>
      rw [ran] at failed
      cases result with
      | ok stats => cases failed
      | error failure =>
          cases failed
          exact ⟨failure, rfl⟩
      | endless => cases failed

/-- An error of its own leaves everything as it was, and is told behind the program's name. -/
theorem run_of_refused {words : List String} {e : Error} {after : Situation σ} (parsed : parse words = .ok o)
    (failed : execute services read env o s = (.error e, after)) (own : ¬e.FromDispatch) :
    after = s ∧
      run wording services read env words s = (some ⟨1, some ("preq-runbook: " ++ e.message wording)⟩, s) := by
  rcases ready_or_refused services read env o s with ⟨events, runbook, ready⟩ | ⟨e', -, refused⟩
  · exact absurd (fromDispatch_of_ready ready failed) own
  · rw [refused] at failed
    cases failed
    refine ⟨rfl, ?_⟩
    simp only [run, parsed, refused]
    rfl

/-- A command line that is carried out succeeds exactly if it is ready and its runbook's run goes well. -/
theorem run_succeeds_iff {words : List String} (parsed : parse words = .ok o) :
    (∃ message after, run wording services read env words s = (some ⟨0, message⟩, after)) ↔
      ∃ events runbook stats after, Ready read env o events runbook ∧
        runbook.run services events s = (.ok stats, after) := by
  constructor
  · rintro ⟨message, after, succeeded⟩
    rcases ready_or_refused services read env o s with ⟨events, runbook, ready⟩ | ⟨e, own, refused⟩
    · simp only [run, parsed, execute_of_ready ready] at succeeded
      cases ran : runbook.run services events s with
      | mk result after =>
          rw [ran] at succeeded
          cases result with
          | ok stats => exact ⟨events, runbook, stats, after, ready, ran⟩
          | error e => cases succeeded
          | endless => cases succeeded
    · rw [(run_of_refused parsed refused own).2] at succeeded
      cases succeeded
  · rintro ⟨events, runbook, stats, after, ready, ran⟩
    refine ⟨none, after, ?_⟩
    simp only [run, parsed, execute_of_ready ready, ran]
    rfl

end

/-- **Nothing is done unless everything is right.**  Words that stop a command line change nothing.
Where it is not ready it has an error of its own; with such an error it changes nothing, exits with
one and tells the error.  It exits with zero if and only if help or the version is asked for, or it is
ready and the dispatch goes well.  And a runbook with an entry that does not build has the error of
the first such entry, under its place. -/
theorem run_dispatches_only_when_ready {σ : Type} (wording : Text.Wording) (services : Host.Services σ)
    (read : ReadFile) (env : Environment) (words : List String) (s : Situation σ) :
    (∀ stop, parse words = .error stop →
      run wording services read env words s = (some ⟨if stop = .misuse then 2 else 0, none⟩, s)) ∧
    (∀ o, parse words = .ok o → (¬∃ events runbook, Ready read env o events runbook) →
      ∃ e, ¬e.FromDispatch ∧ execute services read env o s = (.error e, s)) ∧
    (∀ o e after, parse words = .ok o → execute services read env o s = (.error e, after) →
      ¬e.FromDispatch →
        after = s ∧
          run wording services read env words s =
            (some ⟨1, some ("preq-runbook: " ++ e.message wording)⟩, s)) ∧
    ((∃ message after, run wording services read env words s = (some ⟨0, message⟩, after)) ↔
      parse words = .error .help ∨ parse words = .error .version ∨
        ∃ o events runbook stats after, parse words = .ok o ∧ Ready read env o events runbook ∧
          runbook.run services events s = (.ok stats, after)) ∧
    ∀ (secrets : Runbook.Secrets) (config : Runbook.Config),
      (∃ entry ∈ config.entries, ∃ defect, entry.build secrets = .error defect) →
        ∃ place defect, Runbook.build secrets config.entries = .error (.entry place defect) ∧
          Runbook.FirstDefect secrets config.entries place defect := by
  have stops (stop : Stop) (stopped : parse words = .error stop) :
      run wording services read env words s = (some ⟨if stop = .misuse then 2 else 0, none⟩, s) := by
    simp only [run, stopped]
    cases stop <;> rfl
  refine ⟨stops, ?_, fun o e after => run_of_refused, ?_, ?_⟩
  · intro o _ unready
    exact (ready_or_refused services read env o s).resolve_left unready
  · cases parsed : parse words with
    | error stop =>
        rw [stops stop parsed]
        cases stop <;> simp
    | ok o =>
        rw [run_succeeds_iff parsed]
        simp
  · rintro secrets config ⟨entry, member, defect, failed⟩
    exact Runbook.exists_firstDefect member failed

/-- A runbook whose second entry has no section: the first one is not carried out either, and what
the world had in store is still there. -/
theorem run_dispatches_only_when_ready_second_entry :
    let services := Host.Script.services fun _ => .ok ()
    let runbookText :=
      "actions:\n- type: exec\n  exec:\n    path: p\n    args: ['\x7b\x7b .id \x7d\x7d']\n- type: exec\n"
    let read : ReadFile := fun p =>
      if p = "r" then .ok "[\x7b\"id\":\"A\"\x7d]" else if p = "b" then .ok runbookText else .error .notFound
    let s : Situation Host.Script := ⟨.unlimited, ⟨[.dropped], [.hanging], [], []⟩⟩
    run .elided services read [("PREQ_REPORT", "r")] ["-cb"] s =
      (some ⟨1, some "preq-runbook: action #1: missing exec section"⟩, s) := by
  intro services runbookText read s
  have parsed : parse ["-cb"] = .ok ⟨some "b", none, none⟩ := by decide +kernel
  have failed : (execute services read [("PREQ_REPORT", "r")] ⟨some "b", none, none⟩ s).1 =
      .error (.runbook (.entry 1 (.missingSection .exec))) := by decide +kernel
  have own : ¬(Error.runbook (.entry 1 (.missingSection .exec))).FromDispatch := by
    rintro ⟨failure, same⟩
    cases same
  obtain ⟨-, -, refused, -, -⟩ :=
    run_dispatches_only_when_ready .elided services read [("PREQ_REPORT", "r")] ["-cb"] s
  exact (refused _ _ _ parsed (Prod.ext failed rfl) own).2

/-- Where nothing can be read no command line is ready, but one that asks for help exits with zero. -/
theorem run_help_succeeds_unready :
    ¬∀ (wording : Text.Wording) (services : Host.Services Host.Script) (read : ReadFile)
      (env : Environment) (words : List String) (s : Situation Host.Script),
      (∃ message after, run wording services read env words s = (some ⟨0, message⟩, after)) ↔
        ∃ o events runbook stats after, Ready read env o events runbook ∧
          runbook.run services events s = (.ok stats, after) := by
  intro each
  let services := Host.Script.services fun _ => .error .notFound
  let s : Situation Host.Script := ⟨.unlimited, ⟨[], [], [], []⟩⟩
  have asked : parse ["--help"] = .error .help := by decide +kernel
  obtain ⟨o, events, runbook, -, -, ready, -⟩ := (each .elided services (fun _ => .error .notFound) [] ["--help"] s).1
    ⟨none, s, by simp only [run, asked]; rfl⟩
  obtain ⟨p, text, -, there, -⟩ := ready.report
  cases there

end Responder.CommandLine
