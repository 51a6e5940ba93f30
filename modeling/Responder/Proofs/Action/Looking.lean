/-
# Responder.Proofs.Action.Looking -- which look at work ends the wait for it

Work under a context is looked at again and again.  What one look finds decides the
wait or calls for another look (`Finding.decides`), and the wait ends with the first
look that decides (`run_of_decides`); one always does (`exists_deciding`).  So a
finished result is kept whatever the context has come to, an abort has its reason in
the context, and what later looks would have found plays no part
(`run_stops_at_deciding_look`).
-/
import Responder.Action.Context

namespace Responder.Action

set_option autoImplicit false

variable {α : Type}

/-- What a look at work finds. -/
inductive Finding (α : Type) where
  /-- The work is finished; the look may have cancelled the context. -/
  | finished (cancels : Bool) (result : α)
  /-- The work is not finished yet; the look may have cancelled the context. -/
  | unfinished (cancels : Bool)
  /-- The work is not finished, and nothing will ever call for another look. -/
  | stuck

/-- What looks at work find, one after another, as long as it is looked at. -/
def Work.findings : Work α → List (Finding α)
  | .ready cancels result => [.finished cancels result]
  | .pending cancels next => .unfinished cancels :: next.findings
  | .idle => [.stuck]

/-- How a look ends the wait under a context that was not cancelled before it, if it does: the outcome,
and the context afterwards. -/
def Finding.decides (c : Context) : Finding (Except Error α) → Option (Outcome Error α × Context)
  | .finished cancels result => some (.ofExcept result, c.cancelIf cancels)
  | .unfinished cancels =>
    if c.deadline = some .passed then some (.error .deadlineExceeded, c.cancelIf cancels)
    else if cancels then some (.error .cancelled, c.cancel)
    else none
  | .stuck =>
    if c.deadline = none then some (.endless, c)
    else some (.error .deadlineExceeded, { c with deadline := some .passed })

/-! ## One look -/

theorem cancelIf_false (c : Context) : c.cancelIf false = c := by
  rw [Context.cancelIf, Bool.or_false]

theorem decides_unfinished_eq_none_iff {c : Context} {cancels : Bool} :
    (Finding.unfinished cancels : Finding (Except Error α)).decides c = none ↔
      c.deadline ≠ some .passed ∧ cancels = false := by
  rw [Finding.decides]
  by_cases late : c.deadline = some .passed
  · simp [late]
  · cases cancels <;> simp [late]

/-- An abort has its reason in the context that it leaves, unless the work itself ended so. -/
theorem reason_of_decides {c context : Context} {finding : Finding (Except Error α)} {e : Error}
    (decided : finding.decides c = some (.error e, context)) :
    (∃ cancels, finding = .finished cancels (.error e)) ∨ e = .cancelled ∧ context.cancelled = true ∨
      e = .deadlineExceeded ∧ context.deadline = some .passed := by
  cases finding with
  | finished cancels result =>
      cases result with
      | ok a => cases decided
      | error own =>
          cases decided
          exact .inl ⟨cancels, rfl⟩
  | unfinished cancels =>
      by_cases late : c.deadline = some .passed
      · rw [Finding.decides, if_pos late] at decided
        cases decided
        exact .inr (.inr ⟨rfl, late⟩)
      · rw [Finding.decides, if_neg late] at decided
        cases cancels with
        | false => cases decided
        | true =>
            cases decided
            exact .inr (.inl ⟨rfl, rfl⟩)
  | stuck =>
      by_cases unlimited : c.deadline = none
      · rw [Finding.decides, if_pos unlimited] at decided
        cases decided
      · rw [Finding.decides, if_neg unlimited] at decided
        cases decided
        exact .inr (.inr ⟨rfl, rfl⟩)

/-! ## The wait -/

/-- A context that is cancelled refuses work without a look. -/
theorem run_work_of_cancelled {c : Context} (cancelled : c.cancelled = true) (work : Work (Except Error α)) :
    c.run work = ⟨.error .cancelled, c, 0⟩ := by
  cases work <;> rw [Context.run, if_pos cancelled]

section Running

variable {c : Context} (running : c.cancelled = false)
include running

/-- A look that decides ends the wait. -/
theorem run_of_first_decides {work : Work (Except Error α)} {finding : Finding (Except Error α)}
    {back : List (Finding (Except Error α))} {outcome : Outcome Error α} {context : Context}
    (found : work.findings = finding :: back) (decided : finding.decides c = some (outcome, context)) :
    c.run work = ⟨outcome, context, 1⟩ := by
  have going : ¬ c.cancelled = true := by simp [running]
  cases work with
  | ready cancels result =>
      cases found
      cases decided
      rw [Context.run, if_neg going]
  | pending cancels next =>
      obtain ⟨rfl, -⟩ := List.cons.inj found
      rw [Context.run, if_neg going]
      by_cases late : c.deadline = some .passed
      · rw [Finding.decides, if_pos late] at decided
        cases decided
        simp only [if_pos late]
      · rw [Finding.decides, if_neg late] at decided
        cases cancels with
        | false => cases decided
        | true =>
            -- the next turn begins with the cancellation, before it looks
            have cancelled : (c.cancelIf true).cancelled = true := Bool.or_true _
            have refused := run_work_of_cancelled cancelled next
            cases decided
            simp only [if_neg late, refused]
            rw [Context.cancelIf, Context.cancel, Bool.or_true]
  | idle =>
      cases found
      rw [Context.run, if_neg going]
      cases limit : c.deadline with
      | none =>
          rw [Finding.decides, if_pos limit] at decided
          cases decided
          rfl
      | some deadline =>
          rw [Finding.decides, if_neg (by simp [limit])] at decided
          cases decided
          rfl

/-- A look that does not decide is followed by another under the same context. -/
theorem run_pending_of_undecided {cancels : Bool} {next : Work (Except Error α)}
    (undecided : (Finding.unfinished cancels : Finding (Except Error α)).decides c = none) :
    c.run (.pending cancels next) = { c.run next with looks := (c.run next).looks + 1 } := by
  obtain ⟨early, rfl⟩ := decides_unfinished_eq_none_iff.1 undecided
  rw [Context.run, if_neg (by simp [running])]
  simp only [if_neg early, cancelIf_false]

/-- **The wait ends with the first look that decides**, as that look says. -/
theorem run_of_decides {work : Work (Except Error α)} {front back : List (Finding (Except Error α))}
    {finding : Finding (Except Error α)} {outcome : Outcome Error α} {context : Context}
    (found : work.findings = front ++ finding :: back) (undecided : ∀ f ∈ front, f.decides c = none)
    (decided : finding.decides c = some (outcome, context)) :
    c.run work = ⟨outcome, context, front.length + 1⟩ := by
  induction front generalizing work with
  | nil => exact run_of_first_decides running found decided
  | cons first front ih =>
      have here := undecided first List.mem_cons_self
      cases work with
      | ready cancels result => simp [Work.findings] at found
      | idle => simp [Work.findings] at found
      | pending cancels next =>
          obtain ⟨rfl, later⟩ := List.cons.inj found
          have rest := ih later fun f member => undecided f (List.mem_cons_of_mem _ member)
          rw [run_pending_of_undecided running here, rest]
          rfl

omit running in
/-- There is a first look that decides, since the last one does. -/
theorem exists_deciding (c : Context) (work : Work (Except Error α)) :
    ∃ front finding back outcome context, work.findings = front ++ finding :: back ∧
      (∀ f ∈ front, f.decides c = none) ∧ finding.decides c = some (outcome, context) := by
  induction work with
  | ready cancels result => exact ⟨[], _, [], _, _, rfl, by simp, rfl⟩
  | idle =>
      by_cases unlimited : c.deadline = none
      · exact ⟨[], .stuck, [], _, _, rfl, by simp, if_pos unlimited⟩
      · exact ⟨[], .stuck, [], _, _, rfl, by simp, if_neg unlimited⟩
  | pending cancels next ih =>
      cases decided : (Finding.unfinished cancels : Finding (Except Error α)).decides c with
      | some ended => exact ⟨[], _, next.findings, ended.1, ended.2, rfl, by simp, decided⟩
      | none =>
          obtain ⟨front, finding, back, outcome, context, found, undecided, decides⟩ := ih
          refine ⟨.unfinished cancels :: front, finding, back, outcome, context, ?_, ?_, decides⟩
          · rw [Work.findings, found, List.cons_append]
          · intro f member
            rcases List.mem_cons.1 member with rfl | inFront
            · exact decided
            · exact undecided f inFront

/-- A look that is made ends the wait, or decides nothing and is followed by another. -/
theorem decides_of_lt_looks {work : Work (Except Error α)} {n : Nat} {finding : Finding (Except Error α)}
    (made : n < (c.run work).looks) (found : work.findings[n]? = some finding) :
    finding.decides c = none ∧ n + 1 < (c.run work).looks ∨
      ∃ outcome context, finding.decides c = some (outcome, context) ∧
        c.run work = ⟨outcome, context, n + 1⟩ := by
  obtain ⟨front, last, back, outcome, context, split, undecided, decided⟩ := exists_deciding c work
  rw [run_of_decides running split undecided decided] at made ⊢
  rw [split] at found
  rcases Nat.lt_or_eq_of_le (Nat.le_of_lt_succ made) with before | rfl
  · rw [List.getElem?_append_left before] at found
    exact .inl ⟨undecided finding (List.mem_of_getElem? found), Nat.succ_lt_succ before⟩
  · rw [List.getElem?_append_right (Nat.le_refl _), Nat.sub_self, List.getElem?_cons_zero] at found
    cases found
    exact .inr ⟨outcome, context, decided, rfl⟩

/-- There is a first look, and there are no more looks than findings. -/
theorem looks_bounds (work : Work (Except Error α)) :
    0 < (c.run work).looks ∧ (c.run work).looks ≤ work.findings.length := by
  obtain ⟨front, last, back, outcome, context, split, undecided, decided⟩ := exists_deciding c work
  rw [run_of_decides running split undecided decided, split, List.length_append, List.length_cons]
  refine ⟨Nat.succ_pos front.length, ?_⟩
  show front.length + 1 ≤ front.length + (back.length + 1)
  omega

section Found

variable {work : Work (Except Error α)} {n : Nat} (made : n < (c.run work).looks)
include made

/-- A result that is found is kept, whatever the context has come to. -/
theorem run_of_finished {cancels : Bool} {result : Except Error α}
    (found : work.findings[n]? = some (.finished cancels result)) :
    c.run work = ⟨.ofExcept result, c.cancelIf cancels, n + 1⟩ := by
  rcases decides_of_lt_looks running made found with ⟨undecided, -⟩ | ⟨outcome, context, decided, ended⟩
  · cases undecided
  · cases decided
    exact ended

/-- Unfinished work is late, cancelled or looked at again, in this order. -/
theorem run_of_unfinished {cancels : Bool} (found : work.findings[n]? = some (.unfinished cancels)) :
    (c.deadline = some .passed → c.run work = ⟨.error .deadlineExceeded, c.cancelIf cancels, n + 1⟩) ∧
      (c.deadline ≠ some .passed → cancels = true → c.run work = ⟨.error .cancelled, c.cancel, n + 1⟩) ∧
      (c.deadline ≠ some .passed → cancels = false → n + 1 < (c.run work).looks) := by
  rcases decides_of_lt_looks running made found with ⟨undecided, more⟩ | ⟨outcome, context, decided, ended⟩
  · obtain ⟨early, rfl⟩ := decides_unfinished_eq_none_iff.1 undecided
    exact ⟨fun late => absurd late early, fun _ cancelled => absurd cancelled Bool.false_ne_true,
      fun _ _ => more⟩
  · refine ⟨fun late => ?_, fun early cancelled => ?_, fun early cancelled => ?_⟩
    · rw [Finding.decides, if_pos late] at decided
      cases decided
      exact ended
    · rw [Finding.decides, if_neg early, if_pos cancelled] at decided
      cases decided
      exact ended
    · rw [decides_unfinished_eq_none_iff.2 ⟨early, cancelled⟩] at decided
      cases decided

/-- Work that nothing goes on with ends by a deadline or never. -/
theorem run_of_stuck (found : work.findings[n]? = some .stuck) :
    (c.deadline ≠ none →
        c.run work = ⟨.error .deadlineExceeded, { c with deadline := some .passed }, n + 1⟩) ∧
      (c.deadline = none → c.run work = ⟨.endless, c, n + 1⟩) := by
  rcases decides_of_lt_looks running made found with ⟨undecided, -⟩ | ⟨outcome, context, decided, ended⟩
  · rw [Finding.decides] at undecided
    split at undecided <;> cases undecided
  · refine ⟨fun limited => ?_, fun unlimited => ?_⟩
    · rw [Finding.decides, if_neg limited] at decided
      cases decided
      exact ended
    · rw [Finding.decides, if_pos unlimited] at decided
      cases decided
      exact ended

end Found

end Running

/-- Whether work ended with this error of its own at the last look that was made. -/
def Ran.Returned (ran : Ran α) (work : Work (Except Error α)) (e : Error) : Prop :=
  ∃ n cancels, ran.looks = n + 1 ∧ work.findings[n]? = some (.finished cancels (.error e))

/-- An error other than the work's own has its reason in the context. -/
theorem reason_of_run {c : Context} {work : Work (Except Error α)} {e : Error}
    (failed : (c.run work).outcome = .error e) :
    (c.run work).Returned work e ∨ e = .cancelled ∧ (c.run work).context.cancelled = true ∨
      e = .deadlineExceeded ∧ (c.run work).context.deadline = some .passed := by
  cases running : c.cancelled with
  | true =>
      rw [run_work_of_cancelled running] at failed ⊢
      cases failed
      exact .inr (.inl ⟨rfl, running⟩)
  | false =>
      obtain ⟨front, last, back, outcome, context, split, undecided, decided⟩ := exists_deciding c work
      rw [run_of_decides running split undecided decided] at failed ⊢
      cases failed
      rcases reason_of_decides decided with ⟨cancels, rfl⟩ | reason
      · refine .inl ⟨front.length, cancels, rfl, ?_⟩
        rw [split, List.getElem?_append_right (Nat.le_refl _), Nat.sub_self, List.getElem?_cons_zero]
      · exact .inr reason

/-- Work with the same findings as far as they are looked at comes out in the same way. -/
theorem run_congr {c : Context} {work other : Work (Except Error α)}
    (same : other.findings.take (c.run work).looks = work.findings.take (c.run work).looks) :
    c.run other = c.run work := by
  cases running : c.cancelled with
  | true => rw [run_work_of_cancelled running, run_work_of_cancelled running]
  | false =>
      obtain ⟨front, last, back, outcome, context, split, undecided, decided⟩ := exists_deciding c work
      have ran := run_of_decides running split undecided decided
      have whole : (front ++ last :: back).take (front.length + 1) = front ++ [last] := by
        rw [List.take_append, List.take_of_length_le (Nat.le_succ _), Nat.add_sub_cancel_left]
        rfl
      rw [ran, split, whole] at same
      obtain ⟨back', split'⟩ : ∃ back', other.findings = front ++ last :: back' := by
        refine ⟨other.findings.drop (front.length + 1), ?_⟩
        rw [← List.take_append_drop (front.length + 1) other.findings, same]
        simp
      rw [ran]
      exact run_of_decides running split' undecided decided

/-- **The wait for work keeps a finished result and ends with the first abort.**  A context that is
cancelled at the start refuses the work without a look.  Otherwise there is a first look, and of each
look that is made: if it finds the work finished, the wait ends with that result unchanged, whatever the
deadline and even if the same look has cancelled the context; if it does not, the wait ends as late if the
deadline has passed, else as cancelled if the context is cancelled now, and else there is another look, or
none is ever called for.  So an abort that is not the work's own has its reason in the context, and work
with the same findings up to the last look comes out in the same way, whatever it holds behind. -/
theorem run_stops_at_deciding_look (c : Context) (work : Work (Except Error α)) :
    let ran := c.run work
    (c.cancelled = true → ran = ⟨.error .cancelled, c, 0⟩) ∧
    (c.cancelled = false → 0 < ran.looks ∧ ran.looks ≤ work.findings.length ∧ ∀ n < ran.looks,
      (∀ cancels result, work.findings[n]? = some (.finished cancels result) →
        ran = ⟨.ofExcept result, c.cancelIf cancels, n + 1⟩) ∧
      (∀ cancels, work.findings[n]? = some (.unfinished cancels) →
        (c.deadline = some .passed → ran = ⟨.error .deadlineExceeded, c.cancelIf cancels, n + 1⟩) ∧
        (c.deadline ≠ some .passed → cancels = true → ran = ⟨.error .cancelled, c.cancel, n + 1⟩) ∧
        (c.deadline ≠ some .passed → cancels = false → n + 1 < ran.looks)) ∧
      (work.findings[n]? = some .stuck →
        (c.deadline ≠ none →
          ran = ⟨.error .deadlineExceeded, { c with deadline := some .passed }, n + 1⟩) ∧
        (c.deadline = none → ran = ⟨.endless, c, n + 1⟩))) ∧
    (ran.outcome = .error .cancelled → ran.context.cancelled = true ∨ ran.Returned work .cancelled) ∧
    (ran.outcome = .error .deadlineExceeded →
      ran.context.deadline = some .passed ∨ ran.Returned work .deadlineExceeded) ∧
    ∀ other : Work (Except Error α), other.findings.take ran.looks = work.findings.take ran.looks →
      c.run other = ran := by
  intro ran
  refine ⟨fun cancelled => run_work_of_cancelled cancelled work, fun running => ?_, fun failed => ?_,
    fun failed => ?_, fun other same => run_congr same⟩
  · obtain ⟨first, last⟩ := looks_bounds running work
    refine ⟨first, last, fun n made => ⟨fun cancels result found => ?_, fun cancels found => ?_, fun found => ?_⟩⟩
    · exact run_of_finished running made found
    · exact run_of_unfinished running made found
    · exact run_of_stuck running made found
  · rcases reason_of_run failed with own | ⟨-, cancelled⟩ | ⟨other, -⟩
    · exact .inr own
    · exact .inl cancelled
    · cases other
  · rcases reason_of_run failed with own | ⟨other, -⟩ | ⟨-, late⟩
    · exact .inr own
    · cases other
    · exact .inl late

/-- A look that cancels the context and finds a result under a deadline that has passed gives that result.
Work that is cancelled at its second look is not looked at a third time, so what it would have come to
plays no part; under a passed deadline the first of these looks is the last.  And a cancelled context
looks at nothing. -/
theorem run_stops_at_deciding_look_cancelling :
    let late : Context := ⟨false, some .passed⟩
    let early : Context := ⟨false, some .ahead⟩
    let done : Work (Except Error Nat) := .ready true (.ok 7)
    let cancelled : Work (Except Error Nat) := .pending false (.pending true done)
    let other : Work (Except Error Nat) := .pending false (.pending true .idle)
    late.run done = ⟨.ok 7, ⟨true, some .passed⟩, 1⟩ ∧
      early.run cancelled = ⟨.error .cancelled, ⟨true, some .ahead⟩, 2⟩ ∧
      early.run other = early.run cancelled ∧
      late.run cancelled = ⟨.error .deadlineExceeded, late, 1⟩ ∧
      early.cancel.run done = ⟨.error .cancelled, early.cancel, 0⟩ := by
  intro late early done cancelled other
  obtain ⟨-, lateDone, -⟩ := run_stops_at_deciding_look late done
  obtain ⟨-, earlyCancelled, -, -, same⟩ := run_stops_at_deciding_look early cancelled
  obtain ⟨-, lateCancelled, -⟩ := run_stops_at_deciding_look late cancelled
  obtain ⟨refused, -⟩ := run_stops_at_deciding_look early.cancel done
  obtain ⟨looks, -, each⟩ := lateDone rfl
  obtain ⟨-, -, looked⟩ := earlyCancelled rfl
  obtain ⟨begun, -, lookedLate⟩ := lateCancelled rfl
  have second : early.run cancelled = ⟨.error .cancelled, early.cancel, 2⟩ :=
    ((looked 1 (by decide)).2.1 true rfl).2.1 (by decide) rfl
  refine ⟨(each 0 looks).1 true (.ok 7) rfl, second, same other ?_, ?_, refused rfl⟩
  · rw [second]
    rfl
  · exact ((lookedLate 0 begun).2.1 false rfl).1 rfl

end Responder.Action
