/-
# Responder.Proofs.Dispatch.Alike -- runs of actions that do the same

Actions on two worlds are alike when they are for the same events, and from
situations that are alike come out in the same way and leave situations that are
alike again.  Then whole runs do so too (`run_alike`): what holds of one execution
holds of a run, however long it is and wherever it stops.
-/
import Mathlib.Data.List.Forall2
import Responder.Proofs.Dispatch.Walk

namespace Responder.Dispatch

set_option autoImplicit false

open Responder.Action (Situation Outcome)

variable {σ τ : Type} {R : Situation σ → Situation τ → Prop}

/-! ## Likeness -/

/-- Two things that were done came out in the same way, and left situations that are alike. -/
structure Agree {α : Type} (R : Situation σ → Situation τ → Prop) (x : α × Situation σ)
    (y : α × Situation τ) : Prop where
  result : x.1 = y.1
  situation : R x.2 y.2

/-- Actions that do the same: alike situations stay alike. -/
structure Executable.Alike (R : Situation σ → Situation τ → Prop) (a : Executable σ) (b : Executable τ) :
    Prop where
  kind : a.kind = b.kind
  admits : a.admits = b.admits
  execute : ∀ event s t, R s t → Agree R (a.execute event s) (b.execute event t)

/-- Pairs of the same places and the same event, with actions that do the same. -/
structure Pair.Alike (R : Situation σ → Situation τ → Prop) (p : Pair σ) (q : Pair τ) : Prop where
  index : p.index = q.index
  place : p.place = q.place
  event : p.event = q.event
  action : p.action.Alike R q.action

namespace Pair.Alike

variable {p : Pair σ} {q : Pair τ} (alike : p.Alike R q)
include alike

theorem admitted : p.admitted = q.admitted := by
  rw [Pair.admitted, Pair.admitted, alike.action.admits, alike.event]

theorem failure (cause : Action.Error) : p.failure cause = q.failure cause := by
  rw [Pair.failure, Pair.failure, alike.index, alike.action.kind, alike.place]

theorem execute {s : Situation σ} {t : Situation τ} (related : R s t) :
    Agree R (p.execute s) (q.execute t) := by
  rw [Pair.execute, Pair.execute, alike.event]
  exact alike.action.execute q.event s t related

theorem conclude {x : Outcome Action.Error Unit × Situation σ} {y : Outcome Action.Error Unit × Situation τ}
    (ended : Agree R x y) : Agree R (p.conclude x) (q.conclude y) := by
  obtain ⟨outcome, s⟩ := x
  obtain ⟨outcome', t⟩ := y
  obtain ⟨rfl : outcome = outcome', related⟩ := ended
  cases outcome with
  | ok => exact ⟨rfl, related⟩
  | error cause => exact ⟨congrArg Outcome.error (alike.failure cause), related⟩
  | endless => exact ⟨rfl, related⟩

end Pair.Alike

theorem forall₂_eventPairs {a : Executable σ} {b : Executable τ} (alike : a.Alike R b) (index place : Nat)
    (events : List Event) :
    List.Forall₂ (Pair.Alike R) (eventPairs index a place events) (eventPairs index b place events) := by
  induction events generalizing place with
  | nil => exact .nil
  | cons event rest ih => exact .cons ⟨rfl, rfl, rfl, alike⟩ (ih (place + 1))

theorem forall₂_pairsFrom {as : List (Executable σ)} {bs : List (Executable τ)}
    (alike : List.Forall₂ (Executable.Alike R) as bs) (events : List Event) (index : Nat) :
    List.Forall₂ (Pair.Alike R) (pairsFrom events index as) (pairsFrom events index bs) := by
  induction alike generalizing index with
  | nil => exact .nil
  | cons first rest ih =>
      rw [pairsFrom_cons, pairsFrom_cons]
      exact List.rel_append (forall₂_eventPairs first index 0 events) (ih (index + 1))

/-! ## Runs -/

theorem agree_continueWith {first : Result × Situation σ} {first' : Result × Situation τ}
    {next : Situation σ → Result × Situation σ} {next' : Situation τ → Result × Situation τ}
    (begun : Agree R first first') (goesOn : ∀ s t, R s t → Agree R (next s) (next' t)) :
    Agree R (continueWith first next) (continueWith first' next') := by
  obtain ⟨result, s⟩ := first
  obtain ⟨result', t⟩ := first'
  obtain ⟨rfl : result = result', alike⟩ := begun
  cases result with
  | error failure => exact ⟨rfl, alike⟩
  | endless => exact ⟨rfl, alike⟩
  | ok stats =>
      obtain ⟨same, later⟩ := goesOn s t alike
      exact ⟨congrArg (Outcome.map (Stats.add stats)) same, later⟩

section

variable (sees : ∀ s t, R s t → s.context = t.context)
include sees

theorem agree_turn {p : Pair σ} {q : Pair τ} (alike : p.Alike R q) {s : Situation σ} {t : Situation τ}
    (related : R s t) : Agree R (p.turn s) (q.turn t) := by
  rw [Pair.turn, Pair.turn, ← sees s t related, ← alike.admitted]
  cases s.context.check with
  | error cause => exact ⟨congrArg Outcome.error (alike.failure cause), related⟩
  | ok =>
      by_cases admitted : p.admitted
      · simp only [if_pos admitted]
        exact alike.conclude (alike.execute related)
      · simp only [if_neg admitted]
        exact ⟨rfl, related⟩

theorem agree_walk {ps : List (Pair σ)} {qs : List (Pair τ)} (alike : List.Forall₂ (Pair.Alike R) ps qs)
    {s : Situation σ} {t : Situation τ} (related : R s t) : Agree R (walk ps s) (walk qs t) := by
  induction alike generalizing s t with
  | nil => exact ⟨rfl, related⟩
  | cons first rest ih =>
      exact agree_continueWith (agree_turn sees first related) fun _ _ => ih

/-- **Runs of actions that do the same do the same.** -/
theorem run_alike {as : List (Executable σ)} {bs : List (Executable τ)}
    (alike : List.Forall₂ (Executable.Alike R) as bs) (events : List Event) {s : Situation σ}
    {t : Situation τ} (related : R s t) : Agree R (run as events s) (run bs events t) := by
  rw [run_eq_walk, run_eq_walk]
  exact agree_walk sees (forall₂_pairsFrom alike events 0) related

end

end Responder.Dispatch
