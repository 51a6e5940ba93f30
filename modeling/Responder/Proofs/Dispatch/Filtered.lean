/-
# Responder.Proofs.Dispatch.Filtered -- filtering on the way or beforehand

An event that an action is not for costs a run nothing but a check of the context
and a count.  So the run of an action over all events makes the calls of its
unfiltered twin over the events it is for, and leaves the same situation behind,
whatever executions do (`situation_walk_chosen`).  Where every check succeeds, the
two runs also tell the same: the counts differ by the events left out, and a
failure is told from the place of its event in the list at hand (`walk_retold`).
-/
import Responder.Action.Filter
import Responder.Proofs.Dispatch.Calls
import Responder.Proofs.Dispatch.Split

namespace Responder.Dispatch

set_option autoImplicit false

open Responder.Action (Situation Outcome)

variable {σ : Type}

/-- The action without its filter: it is for every event. -/
def Executable.unfiltered (a : Executable σ) : Executable σ := { a with admits := fun _ => true }

/-- The pairs of the unfiltered action with the events that the action is for. -/
def chosenPairs (index : Nat) (a : Executable σ) (place : Nat) (events : List Event) : List (Pair σ) :=
  eventPairs index a.unfiltered place (events.filter a.admits)

section Pairs

variable {index place place' : Nat} {a : Executable σ} {event : Event} {rest : List Event}

theorem eventPairs_cons : eventPairs index a place (event :: rest) =
    ⟨index, a, place, event⟩ :: eventPairs index a (place + 1) rest := rfl

theorem chosenPairs_cons_of_admits (admits : a.admits event) :
    chosenPairs index a place (event :: rest) =
      ⟨index, a.unfiltered, place, event⟩ :: chosenPairs index a (place + 1) rest := by
  rw [chosenPairs, List.filter_cons_of_pos admits]
  rfl

theorem chosenPairs_cons_of_not_admits (left : ¬ a.admits event) :
    chosenPairs index a place (event :: rest) = chosenPairs index a place rest := by
  rw [chosenPairs, List.filter_cons_of_neg left, chosenPairs]

end Pairs

/-! ## What both runs do -/

/-- **A filtered walk leaves the situation of the unfiltered one over the events that are chosen.** -/
theorem situation_walk_chosen (index place place' : Nat) (a : Executable σ) (events : List Event)
    (s : Situation σ) :
    (walk (chosenPairs index a place' events) s).2 = (walk (eventPairs index a place events) s).2 := by
  induction events generalizing place place' s with
  | nil => rfl
  | cons event rest ih =>
      cases checked : s.context.check with
      | error cause => rw [situation_walk_of_check_error checked, situation_walk_of_check_error checked]
      | ok =>
          by_cases admits : a.admits event
          · have twin := Pair.turn_of_admitted (p := ⟨index, a.unfiltered, place', event⟩) checked rfl
            have own := Pair.turn_of_admitted (p := ⟨index, a, place, event⟩) checked admits
            rw [chosenPairs_cons_of_admits admits, eventPairs_cons, walk, walk, twin, own]
            -- both turns come from one execution, and only an execution that goes well is followed by more
            show (continueWith (Pair.conclude _ (a.execute event s)) _).2 =
              (continueWith (Pair.conclude _ (a.execute event s)) _).2
            rcases a.execute event s with ⟨outcome, after⟩
            cases outcome with
            | error cause => rfl
            | endless => rfl
            | ok => exact ih (place + 1) (place' + 1) after
          · have own := Pair.turn_of_not_admitted (p := ⟨index, a, place, event⟩) checked admits
            rw [chosenPairs_cons_of_not_admits admits, eventPairs_cons, walk, own]
            exact ih (place + 1) place' s

/-! ## What both runs tell -/

/-- Among the events that an action is for, number `j` is the one that stands at `i` in the list. -/
def ChosenAt (a : Executable σ) (events : List Event) (j i : Nat) : Prop :=
  ∃ front event back, events = front ++ event :: back ∧ a.admits event ∧
    (front.filter a.admits).length = j ∧ front.length = i

section ChosenAt

variable {a : Executable σ} {event : Event} {events rest : List Event} {j i : Nat}

theorem chosenAt_cons_zero (admits : a.admits event) : ChosenAt a (event :: rest) 0 0 :=
  ⟨[], event, rest, rfl, admits, rfl, rfl⟩

theorem ChosenAt.cons_of_admits (admits : a.admits event) (chosen : ChosenAt a rest j i) :
    ChosenAt a (event :: rest) (j + 1) (i + 1) := by
  obtain ⟨front, e, back, rfl, own, rfl, rfl⟩ := chosen
  refine ⟨event :: front, e, back, rfl, own, ?_, rfl⟩
  rw [List.filter_cons_of_pos admits, List.length_cons]

theorem ChosenAt.cons_of_not_admits (left : ¬ a.admits event) (chosen : ChosenAt a rest j i) :
    ChosenAt a (event :: rest) j (i + 1) := by
  obtain ⟨front, e, back, rfl, own, rfl, rfl⟩ := chosen
  refine ⟨event :: front, e, back, rfl, own, ?_, rfl⟩
  rw [List.filter_cons_of_neg left]

/-- Of two places, the later one is that of a later choice. -/
theorem ChosenAt.choice_lt {j' i' : Nat} (chosen : ChosenAt a events j i) (chosen' : ChosenAt a events j' i')
    (before : i < i') : j < j' := by
  obtain ⟨front, e, back, rfl, admits, rfl, rfl⟩ := chosen
  obtain ⟨front', e', back', same, -, rfl, rfl⟩ := chosen'
  rcases List.append_eq_append_iff.1 same with ⟨between, rfl, split⟩ | ⟨between, rfl, -⟩
  · cases between with
    | nil => simp at before
    | cons c middle =>
        obtain ⟨rfl, -⟩ := List.cons.inj split
        rw [List.filter_append, List.length_append, List.filter_cons_of_pos admits, List.length_cons]
        omega
  · rw [List.length_append] at before
    omega

/-- Each place is that of one choice. -/
theorem ChosenAt.choice_unique {j' : Nat} (chosen : ChosenAt a events j i) (chosen' : ChosenAt a events j' i) :
    j = j' := by
  obtain ⟨front, e, back, rfl, -, rfl, rfl⟩ := chosen
  obtain ⟨front', e', back', same, -, rfl, sameLength⟩ := chosen'
  obtain ⟨rfl, -⟩ := List.append_inj same sameLength.symm
  rfl

/-- Each choice stands at one place. -/
theorem ChosenAt.place_unique {i' : Nat} (chosen : ChosenAt a events j i) (chosen' : ChosenAt a events j i') :
    i = i' := by
  rcases Nat.lt_trichotomy i i' with before | same | behind
  · exact absurd (chosen.choice_lt chosen' before) (Nat.lt_irrefl j)
  · exact same
  · exact absurd (chosen'.choice_lt chosen behind) (Nat.lt_irrefl j)

end ChosenAt

/-- What the run of an action tells, and what the run of its unfiltered twin over the events that are
chosen tells: the counts differ by the events left out, and a failure is the same but for its place. -/
inductive Retold (index : Nat) (a : Executable σ) (place place' : Nat) (events : List Event) :
    Result → Result → Prop where
  | ok : Retold index a place place' events
      (.ok ⟨(events.filter a.admits).length, events.length - (events.filter a.admits).length⟩)
      (.ok ⟨(events.filter a.admits).length, 0⟩)
  | failed {j i : Nat} (cause : Action.Error) (chosen : ChosenAt a events j i) :
      Retold index a place place' events (.error ⟨index, a.kind, place + i, cause⟩)
        (.error ⟨index, a.kind, place' + j, cause⟩)
  | endless : Retold index a place place' events .endless .endless

section Retold

variable {index place place' : Nat} {a : Executable σ} {event : Event} {events rest : List Event}
  {told retold : Result}

theorem Retold.cons_of_admits (admits : a.admits event)
    (later : Retold index a (place + 1) (place' + 1) rest told retold) :
    Retold index a place place' (event :: rest) (told.map (Stats.add Stats.zero.addExecuted))
      (retold.map (Stats.add Stats.zero.addExecuted)) := by
  cases later with
  | ok =>
      have whole := @Retold.ok σ index a place place' (event :: rest)
      rw [List.filter_cons_of_pos admits, List.length_cons, List.length_cons, Nat.add_sub_add_right] at whole
      rw [Outcome.map, Outcome.map, add_executed, add_executed]
      exact whole
  | failed cause chosen =>
      rw [Nat.add_right_comm, Nat.add_right_comm place']
      exact .failed cause (chosen.cons_of_admits admits)
  | endless => exact .endless

theorem Retold.cons_of_not_admits (left : ¬ a.admits event)
    (later : Retold index a (place + 1) place' rest told retold) :
    Retold index a place place' (event :: rest) (told.map (Stats.add Stats.zero.addSkipped)) retold := by
  cases later with
  | ok =>
      have fits : (rest.filter a.admits).length ≤ rest.length := List.length_filter_le _ _
      have whole := @Retold.ok σ index a place place' (event :: rest)
      rw [List.filter_cons_of_neg left, List.length_cons, Nat.succ_sub fits] at whole
      rw [Outcome.map, add_skipped]
      exact whole
  | failed cause chosen =>
      rw [Nat.add_right_comm]
      exact .failed cause (chosen.cons_of_not_admits left)
  | endless => exact .endless

theorem Retold.retold_ok_iff (both : Retold index a place place' events told retold) (n left : Nat) :
    retold = .ok ⟨n, left⟩ ↔ left = 0 ∧ told = .ok ⟨n, events.length - n⟩ := by
  cases both with
  | ok =>
      constructor
      · rintro ⟨⟩
        exact ⟨rfl, rfl⟩
      · rintro ⟨rfl, same⟩
        obtain ⟨rfl, -⟩ := Stats.mk.inj (Outcome.ok.inj same)
        rfl
  | failed cause chosen => simp
  | endless => simp

theorem Retold.told_ok_iff (both : Retold index a place place' events told retold) (n left : Nat) :
    told = .ok ⟨n, left⟩ ↔ left = events.length - n ∧ retold = .ok ⟨n, 0⟩ := by
  rw [both.retold_ok_iff]
  constructor
  · intro own
    have kept : left = events.length - n := by
      cases both with
      | ok =>
          obtain ⟨rfl, rfl⟩ := Stats.mk.inj (Outcome.ok.inj own)
          rfl
      | failed cause chosen => cases own
      | endless => cases own
    exact ⟨kept, rfl, kept ▸ own⟩
  · rintro ⟨rfl, -, own⟩
    exact own

theorem Retold.retold_error_iff (both : Retold index a 0 0 events told retold) (f : Failure) :
    retold = .error f ↔ ∃ i, ChosenAt a events f.event i ∧ told = .error { f with event := i } := by
  obtain ⟨action, kind, choice, cause⟩ := f
  cases both with
  | ok => simp
  | @failed j i own chosen =>
      rw [Nat.zero_add, Nat.zero_add]
      constructor
      · rintro ⟨⟩
        exact ⟨i, chosen, rfl⟩
      · rintro ⟨i', chosen', same⟩
        cases same
        rw [chosen.choice_unique chosen']
  | endless => simp

theorem Retold.told_error_iff (both : Retold index a 0 0 events told retold) (f : Failure) :
    told = .error f ↔ ∃ j, ChosenAt a events j f.event ∧ retold = .error { f with event := j } := by
  obtain ⟨action, kind, place, cause⟩ := f
  cases both with
  | ok => simp
  | @failed j i own chosen =>
      rw [Nat.zero_add, Nat.zero_add]
      constructor
      · rintro ⟨⟩
        exact ⟨j, chosen, rfl⟩
      · rintro ⟨j', chosen', same⟩
        cases same
        rw [chosen.place_unique chosen']
  | endless => simp

theorem Retold.endless_iff (both : Retold index a place place' events told retold) :
    retold = .endless ↔ told = .endless := by
  cases both <;> simp

end Retold

/-- Whether every check that a walk makes lets it go on. -/
def Checked (ps : List (Pair σ)) (s : Situation σ) : Prop :=
  ∀ front p back, ps = front ++ p :: back → Passed front s → (reached front s).context.check = .ok ()

theorem checked_nil (s : Situation σ) : Checked [] s := by
  intro front p back split
  exact absurd split (by simp)

theorem checked_cons {p : Pair σ} {ps : List (Pair σ)} {s : Situation σ} :
    Checked (p :: ps) s ↔ s.context.check = .ok () ∧ (¬ p.Stops s → Checked ps (p.after s)) := by
  constructor
  · intro checked
    refine ⟨checked [] p ps rfl (passed_nil s), fun goesOn front q back split passed => ?_⟩
    exact checked (p :: front) q back (by rw [split, List.cons_append]) (passed_cons.2 ⟨goesOn, passed⟩)
  · rintro ⟨here, later⟩ front q back split passed
    cases front with
    | nil => exact here
    | cons p' front =>
        obtain ⟨rfl, rest⟩ := List.cons.inj split
        obtain ⟨goesOn, passed⟩ := passed_cons.1 passed
        exact later goesOn front q back rest passed

/-- Whether every check lets a walk go on can be found out, pair by pair. -/
instance : (ps : List (Pair σ)) → (s : Situation σ) → Decidable (Checked ps s)
  | [], s => isTrue (checked_nil s)
  | p :: ps, s =>
    have : Decidable (Checked ps (p.after s)) := instDecidableChecked ps (p.after s)
    decidable_of_iff _ checked_cons.symm

/-- **Where every check succeeds, a filtered walk tells what the unfiltered one over the chosen events
tells**, but for the counts of events left out and the places of events. -/
theorem walk_retold {index place place' : Nat} {a : Executable σ} {events : List Event} {s : Situation σ}
    (checked : Checked (eventPairs index a place events) s) :
    Retold index a place place' events (walk (eventPairs index a place events) s).1
      (walk (chosenPairs index a place' events) s).1 := by
  induction events generalizing place place' s with
  | nil => exact .ok
  | cons event rest ih =>
      let p : Pair σ := ⟨index, a, place, event⟩
      obtain ⟨here, later⟩ := checked_cons.1 checked
      by_cases admits : a.admits event
      · have twin := Pair.turn_of_admitted (p := ⟨index, a.unfiltered, place', event⟩) here rfl
        have own := Pair.turn_of_admitted (p := p) here admits
        rw [chosenPairs_cons_of_admits admits, eventPairs_cons, walk, walk, twin, own]
        show Retold index a place place' (event :: rest)
          (continueWith (Pair.conclude _ (a.execute event s)) _).1
          (continueWith (Pair.conclude _ (a.execute event s)) _).1
        rcases executed : a.execute event s with ⟨outcome, after⟩
        cases outcome with
        | error cause => exact .failed cause (chosenAt_cons_zero admits)
        | endless => exact .endless
        | ok =>
            have goesOn : ¬ p.Stops s := by
              rintro (⟨cause, failed⟩ | ⟨-, bad⟩)
              · rw [here] at failed
                cases failed
              · exact bad (congrArg Prod.fst executed)
            have reach : p.after s = after := (if_pos admits).trans (congrArg Prod.snd executed)
            have rest := later goesOn
            rw [reach] at rest
            exact (ih rest).cons_of_admits admits
      · have own := Pair.turn_of_not_admitted (p := p) here admits
        have goesOn : ¬ p.Stops s := by
          rintro (⟨cause, failed⟩ | ⟨admitted, -⟩)
          · rw [here] at failed
            cases failed
          · exact admits admitted
        have reach : p.after s = s := if_neg admits
        have rest := later goesOn
        rw [reach] at rest
        rw [chosenPairs_cons_of_not_admits admits, eventPairs_cons, walk, own]
        exact (ih rest).cons_of_not_admits admits

/-! ## Runs -/

/-- **Filtering on the way is filtering beforehand.**  Whatever executions do: the run of an action makes
the same calls in the same order as the run of its unfiltered twin over the events it is for, and leaves
the same world and context.  If every check of the filtered run succeeds, the twin goes well with `n`
executions exactly if the filtered run does with `n` executions and all other events left out; and the
twin fails on number `j` of the chosen events exactly if the filtered run fails in the same way on that
event, at its own place in the list. -/
theorem run_filtered (a : Executable σ) (events : List Event) (s : Situation σ) :
    let chosen := events.filter a.admits
    let told := (run [a] events s).1
    let retold := (run [a.unfiltered] chosen s).1
    (run (recorded [a.unfiltered]) chosen (unrecorded s)).2 = (run (recorded [a]) events (unrecorded s)).2 ∧
    (run [a.unfiltered] chosen s).2 = (run [a] events s).2 ∧
    (Checked (pairs [a] events) s →
      (∀ n left, retold = .ok ⟨n, left⟩ ↔ left = 0 ∧ told = .ok ⟨n, events.length - n⟩) ∧
      (∀ n left, told = .ok ⟨n, left⟩ ↔ left = events.length - n ∧ retold = .ok ⟨n, 0⟩) ∧
      (∀ f, retold = .error f ↔ ∃ i, ChosenAt a events f.event i ∧ told = .error { f with event := i }) ∧
      (∀ f, told = .error f ↔ ∃ j, ChosenAt a events j f.event ∧ retold = .error { f with event := j }) ∧
      (retold = .endless ↔ told = .endless)) := by
  intro chosen told retold
  have situations {τ : Type} (b : Executable τ) (t : Situation τ) :
      (run [b.unfiltered] (events.filter b.admits) t).2 = (run [b] events t).2 := by
    rw [run_eq_walk, run_eq_walk, pairs_singleton, pairs_singleton]
    exact situation_walk_chosen 0 0 0 b events t
  refine ⟨situations (a.recorded 0) (unrecorded s), situations a s, fun checked => ?_⟩
  have both : Retold 0 a 0 0 events told retold := by
    rw [pairs_singleton] at checked
    have walked : Retold 0 a 0 0 events _ _ := walk_retold checked
    rw [chosenPairs, ← pairs_singleton, ← pairs_singleton, ← run_eq_walk, ← run_eq_walk] at walked
    exact walked
  exact ⟨both.retold_ok_iff, both.told_ok_iff, both.retold_error_iff, both.told_error_iff, both.endless_iff⟩

/-- Of four events a pattern leaves out the first and the third.  An execution that fails on its second
call fails on number 1 of the chosen events, at place 3 of all; one that always goes well is counted
with two events left out or with none; and what they do to the world is the same. -/
theorem run_filtered_pattern :
    let pattern : Action.Filter := ⟨"-2", .literal ['-', '2']⟩
    let event (id : String) : Event := ⟨[("id", .string id)]⟩
    let events := [event "CRE-1", event "CRE-20", event "CRE-3", event "CRE-24"]
    let log (e : Event) (s : Situation (List String)) := { s with world := s.world ++ [e.ruleId] }
    let noting : Executable (List String) := ⟨.exec, pattern.admits, fun e s => (.ok (), log e s)⟩
    let failing : Executable (List String) := ⟨.exec, pattern.admits, fun e s =>
      (if s.world = [] then .ok () else .error (.http .slack "u"), log e s)⟩
    let s : Situation (List String) := ⟨.unlimited, []⟩
    (run [noting] events s).1 = .ok ⟨2, 2⟩ ∧
      (run [noting.unfiltered] (events.filter pattern.admits) s).1 = .ok ⟨2, 0⟩ ∧
      ChosenAt failing events 1 3 ∧
      (run [failing] events s).1 = .error ⟨0, .exec, 3, .http .slack "u"⟩ ∧
      (run [failing.unfiltered] (events.filter pattern.admits) s).1 = .error ⟨0, .exec, 1, .http .slack "u"⟩ ∧
      (run [failing.unfiltered] (events.filter pattern.admits) s).2.world = ["CRE-20", "CRE-24"] := by
  intro pattern event events log noting failing s
  have wellChecked : Checked (pairs [noting] events) s := by decide +kernel
  have badlyChecked : Checked (pairs [failing] events) s := by decide +kernel
  have went : (run [noting] events s).1 = .ok ⟨2, 2⟩ := by decide +kernel
  have failed : (run [failing] events s).1 = .error ⟨0, .exec, 3, .http .slack "u"⟩ := by decide +kernel
  have wrote : (run [failing] events s).2.world = ["CRE-20", "CRE-24"] := by decide +kernel
  have second : ChosenAt failing events 1 3 :=
    ⟨events.take 3, event "CRE-24", [], rfl, by decide +kernel, by decide +kernel, rfl⟩
  obtain ⟨-, -, tellsWell⟩ := run_filtered noting events s
  obtain ⟨-, same, tellsBadly⟩ := run_filtered failing events s
  obtain ⟨-, counted, -⟩ := tellsWell wellChecked
  obtain ⟨-, -, placed, -⟩ := tellsBadly badlyChecked
  exact ⟨went, ((counted 2 2).1 went).2, second, failed,
    (placed ⟨0, .exec, 1, .http .slack "u"⟩).2 ⟨3, second, failed⟩, same ▸ wrote⟩

end Responder.Dispatch
