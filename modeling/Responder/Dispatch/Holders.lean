/-
# Responder.Dispatch.Holders -- contexts that share one token

A context can be cloned, given a deadline of its own, or made from a token alone,
and every context that comes about in this way shares the token which says whether
it is cancelled.  The holder of a context is known by its number.  What holders do
they do one after another, each in its own situation: afterwards all holders see
the token and the world as that one has left them, and keep their own deadlines.
-/
import Responder.Dispatch.Basic

namespace Responder.Dispatch

set_option autoImplicit false

open Responder.Action (Context Deadline Situation Work)

/-- Contexts that share a token, and the world around them. -/
structure Holders (σ : Type) where
  cancelled : Bool
  /-- The deadline of each holder's context, if it has one. -/
  deadlines : List (Option Deadline)
  world : σ

/-- What a holder does with its context. -/
inductive Act (σ : Type) : Type 1 where
  | cancel
  | check
  | await {α : Type} (work : Work (Except Action.Error α))
  | dispatch (actions : List (Executable σ)) (events : List Event)

variable {σ : Type}

/-- What an act makes of its holder's situation. -/
def Act.perform (s : Situation σ) : Act σ → Situation σ
  | .cancel => s.cancel
  | .check => s
  | .await work => (s.await work).2
  | .dispatch actions events => (run actions events s).2

namespace Holders

/-- What can happen to contexts that share a token. -/
inductive Step (σ : Type) : Type 1 where
  /-- A context is made from the token alone. -/
  | join
  /-- A holder's context is cloned. -/
  | clone (holder : Nat)
  /-- A holder's context is copied with another deadline. -/
  | limit (holder : Nat) (deadline : Deadline)
  /-- Time goes by until a holder's deadline has passed. -/
  | expire (holder : Nat)
  | act (holder : Nat) (act : Act σ)

/-- The situation of a holder. -/
def situation? (h : Holders σ) (holder : Nat) : Option (Situation σ) :=
  h.deadlines[holder]?.map fun deadline => ⟨⟨h.cancelled, deadline⟩, h.world⟩

/-- One context more, with this deadline. -/
def add (h : Holders σ) (deadline : Option Deadline) : Holders σ :=
  { h with deadlines := h.deadlines ++ [deadline] }

/-- A holder leaves its situation to the others. -/
def leave (h : Holders σ) (holder : Nat) (s : Situation σ) : Holders σ :=
  ⟨s.context.cancelled, h.deadlines.set holder s.context.deadline, s.world⟩

/-- What a step makes of contexts; a step of a holder that is not there makes nothing. -/
def step (h : Holders σ) : Step σ → Holders σ
  | .join => h.add none
  | .clone holder =>
    match h.situation? holder with
    | some s => h.add s.context.deadline
    | none => h
  | .limit holder deadline =>
    match h.situation? holder with
    | some _ => h.add (some deadline)
    | none => h
  | .expire holder =>
    { h with deadlines := h.deadlines.modify holder (Option.map fun _ => .passed) }
  | .act holder act =>
    match h.situation? holder with
    | some s => h.leave holder (act.perform s)
    | none => h

/-- What steps make of contexts, from the first to the last. -/
def after (h : Holders σ) (steps : List (Step σ)) : Holders σ := steps.foldl step h

end Holders

end Responder.Dispatch
