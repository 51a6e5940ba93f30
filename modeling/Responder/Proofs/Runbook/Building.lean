/-
# Responder.Proofs.Runbook.Building -- runbooks are built as a whole or not at all

Entries are built one after another, each without regard to the others.  A runbook
is there if and only if every entry builds alone, and then its steps are what the
entries build (`build_eq_ok_iff`).  Otherwise the error is that of the first entry
that does not build, and names its place (`build_eq_error_iff`).
-/
import Responder.Proofs.Except
import Responder.Runbook.Basic

namespace Responder.Runbook

set_option autoImplicit false

variable {secrets : Secrets}

theorem buildSteps_eq_ok_iff {index : Nat} {entries : List Entry} {steps : List Step} :
    buildSteps secrets index entries = .ok steps ↔
      List.Forall₂ (fun entry step => entry.build secrets = .ok step) entries steps := by
  induction entries generalizing index steps with
  | nil =>
      rw [buildSteps, List.forall₂_nil_left_iff]
      simp [eq_comm]
  | cons first rest ih =>
      rw [buildSteps, List.forall₂_cons_left_iff]
      cases built : first.build secrets with
      | error defect => simp
      | ok step =>
          constructor
          · intro whole
            obtain ⟨later, behind, made⟩ := bind_eq_ok_iff.1 whole
            cases made
            exact ⟨step, later, rfl, ih.1 behind, rfl⟩
          · rintro ⟨_, later, ⟨⟩, behind, rfl⟩
            exact bind_eq_ok_iff.2 ⟨later, ih.2 behind, rfl⟩

/-- A runbook is there if and only if each of its entries builds alone. -/
theorem build_eq_ok_iff {entries : List Entry} {runbook : Runbook} :
    build secrets entries = .ok runbook ↔
      List.Forall₂ (fun entry step => entry.build secrets = .ok step) entries runbook.steps := by
  rw [build, bind_eq_ok_iff, ← buildSteps_eq_ok_iff]
  constructor
  · rintro ⟨steps, built, ⟨⟩⟩
    exact built
  · intro built
    exact ⟨runbook.steps, built, rfl⟩

/-- The entry at a place is the first that does not build, and this is its defect. -/
structure FirstDefect (secrets : Secrets) (entries : List Entry) (place : Nat) (defect : Defect) : Prop where
  here : ∃ entry, entries[place]? = some entry ∧ entry.build secrets = .error defect
  before : ∀ earlier < place, ∀ entry, entries[earlier]? = some entry → ∃ step, entry.build secrets = .ok step

theorem firstDefect_nil {place : Nat} {defect : Defect} : ¬FirstDefect secrets [] place defect := by
  rintro ⟨⟨entry, inside, -⟩, -⟩
  cases inside

theorem firstDefect_cons_of_error {first : Entry} {rest : List Entry} {place : Nat} {defect own : Defect}
    (failed : first.build secrets = .error own) :
    FirstDefect secrets (first :: rest) place defect ↔ place = 0 ∧ defect = own := by
  constructor
  · rintro ⟨⟨entry, inside, found⟩, before⟩
    cases place with
    | zero =>
        cases inside
        rw [failed] at found
        cases found
        exact ⟨rfl, rfl⟩
    | succ place =>
        obtain ⟨step, built⟩ := before 0 (Nat.succ_pos place) first rfl
        rw [failed] at built
        cases built
  · rintro ⟨rfl, rfl⟩
    exact ⟨⟨first, rfl, failed⟩, fun earlier below => absurd below (Nat.not_lt_zero earlier)⟩

theorem firstDefect_cons_of_ok {first : Entry} {rest : List Entry} {place : Nat} {defect : Defect}
    {step : Step} (built : first.build secrets = .ok step) :
    FirstDefect secrets (first :: rest) place defect ↔
      ∃ behind, place = behind + 1 ∧ FirstDefect secrets rest behind defect := by
  constructor
  · rintro ⟨⟨entry, inside, found⟩, before⟩
    cases place with
    | zero =>
        cases inside
        rw [built] at found
        cases found
    | succ place =>
        exact ⟨place, rfl, ⟨entry, inside, found⟩,
          fun earlier below => before (earlier + 1) (Nat.succ_lt_succ below)⟩
  · rintro ⟨behind, rfl, ⟨entry, inside, found⟩, before⟩
    refine ⟨⟨entry, inside, found⟩, fun earlier below other there => ?_⟩
    cases earlier with
    | zero =>
        cases there
        exact ⟨step, built⟩
    | succ earlier => exact before earlier (Nat.lt_of_succ_lt_succ below) other there

theorem buildSteps_eq_error_iff {index : Nat} {entries : List Entry} {e : Error} :
    buildSteps secrets index entries = .error e ↔
      ∃ place defect, FirstDefect secrets entries place defect ∧ e = .entry (index + place) defect := by
  -- places count from the entry that is built next, whatever its index
  induction entries generalizing index with
  | nil => simp [buildSteps, firstDefect_nil]
  | cons first rest ih =>
      rw [buildSteps]
      cases built : first.build secrets with
      | error own => simp [firstDefect_cons_of_error built, eq_comm]
      | ok step =>
          have failsBehind : (do return step :: (← buildSteps secrets (index + 1) rest)) = .error e ↔
              buildSteps secrets (index + 1) rest = .error e := by
            cases buildSteps secrets (index + 1) rest <;> simp [bind, Except.bind, pure, Except.pure]
          refine failsBehind.trans (ih.trans ?_)
          simp only [firstDefect_cons_of_ok built]
          constructor
          · rintro ⟨place, defect, first, rfl⟩
            exact ⟨place + 1, defect, ⟨place, rfl, first⟩, by rw [Nat.add_assoc, Nat.add_comm 1]⟩
          · rintro ⟨_, defect, ⟨place, rfl, first⟩, rfl⟩
            exact ⟨place, defect, first, by rw [Nat.add_assoc, Nat.add_comm 1]⟩

/-- A runbook that is not there fails as the first of its entries that does not build. -/
theorem build_eq_error_iff {entries : List Entry} {e : Error} :
    build secrets entries = .error e ↔
      ∃ place defect, FirstDefect secrets entries place defect ∧ e = .entry place defect := by
  have steps : buildSteps secrets 0 entries = .error e ↔
      ∃ place defect, FirstDefect secrets entries place defect ∧ e = .entry place defect := by
    simpa only [Nat.zero_add] using @buildSteps_eq_error_iff secrets 0 entries e
  rw [← steps, build]
  cases buildSteps secrets 0 entries <;> simp [bind, Except.bind, pure, Except.pure]

/-- One entry that does not build is enough for there to be a first. -/
theorem exists_firstDefect {entries : List Entry} {entry : Entry} {defect : Defect} (member : entry ∈ entries)
    (failed : entry.build secrets = .error defect) :
    ∃ place own, build secrets entries = .error (.entry place own) ∧ FirstDefect secrets entries place own := by
  cases built : build secrets entries with
  | error e =>
      obtain ⟨place, own, first, rfl⟩ := build_eq_error_iff.1 built
      exact ⟨place, own, rfl, first⟩
  | ok runbook =>
      have each := build_eq_ok_iff.1 built
      obtain ⟨place, bound, rfl⟩ := List.mem_iff_getElem.1 member
      have made : entries[place].build secrets = .ok _ := each.get bound (each.length_eq ▸ bound)
      rw [failed] at made
      cases made

/-- Every entry of a runbook that is there builds. -/
theorem exists_step_of_mem {entries : List Entry} {runbook : Runbook} (built : build secrets entries = .ok runbook)
    {entry : Entry} (member : entry ∈ entries) : ∃ step, entry.build secrets = .ok step := by
  cases own : entry.build secrets with
  | ok step => exact ⟨step, rfl⟩
  | error defect =>
      obtain ⟨place, found, failed, -⟩ := exists_firstDefect member own
      rw [built] at failed
      cases failed

end Responder.Runbook
