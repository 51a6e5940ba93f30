/-
# Responder.Action.Context -- cancellation, deadlines and work in progress

A context says whether a run has been cancelled and whether it has a deadline.
Work is what the outside does in answer to a request: each look at it finds it
finished or not yet, and may cancel the context on the way.  `Context.run`
looks at work until it is finished, cancelled or late, in this order at every
look: cancellation first, then the work, then the deadline.  So a finished
result is kept even when the deadline has passed or the same look cancelled the
context, and after an abort the work is never looked at again.
-/
import Responder.Action.Error

namespace Responder.Action

set_option autoImplicit false

/-- A deadline that has passed, or one still ahead: then it passes only while
nothing else can happen. -/
inductive Deadline where
  | ahead
  | passed
  deriving DecidableEq

/-- Whether a run has been cancelled, and its deadline if it has one. -/
structure Context where
  cancelled : Bool
  deadline : Option Deadline
  deriving DecidableEq

/-- A context that nothing limits. -/
def Context.unlimited : Context := ⟨false, none⟩

/-- Cancels a context. -/
def Context.cancel (c : Context) : Context := { c with cancelled := true }

/-- Cancels a context if that is asked. -/
def Context.cancelIf (c : Context) (cancels : Bool) : Context :=
  { c with cancelled := c.cancelled || cancels }

/-- Whether new work may start: cancellation is reported before lateness. -/
def Context.check (c : Context) : Except Error Unit :=
  if c.cancelled then .error .cancelled
  else if c.deadline = some .passed then .error .deadlineExceeded
  else .ok ()

/-- How something ends: with a value, with an error, or never. -/
inductive Outcome (ε α : Type) where
  | ok (value : α)
  | error (error : ε)
  | endless
  deriving DecidableEq

namespace Outcome

variable {ε ε' α β : Type}

/-- The outcome that is sure to come. -/
def ofExcept : Except ε α → Outcome ε α
  | .ok a => .ok a
  | .error e => .error e

/-- Changes the value. -/
def map (f : α → β) : Outcome ε α → Outcome ε β
  | .ok a => .ok (f a)
  | .error e => .error e
  | .endless => .endless

/-- Changes the error. -/
def mapError (f : ε → ε') : Outcome ε α → Outcome ε' α
  | .ok a => .ok a
  | .error e => .error (f e)
  | .endless => .endless

end Outcome

/-- Work in progress, by what successive looks at it find. -/
inductive Work (α : Type) where
  /-- It is finished; the look may cancel the context first. -/
  | ready (cancels : Bool) (result : α)
  /-- It is not finished yet; the look may cancel the context first. -/
  | pending (cancels : Bool) (next : Work α)
  /-- It will never be finished. -/
  | idle

/-- Changes the result of work. -/
def Work.map {α β : Type} (f : α → β) : Work α → Work β
  | .ready cancels result => .ready cancels (f result)
  | .pending cancels next => .pending cancels (next.map f)
  | .idle => .idle

/-- Cancels the context at the next look, if that is asked; what would never be
finished is then looked at once more. -/
def Work.cancelIf {α : Type} (cancels : Bool) : Work α → Work α
  | .ready also result => .ready (cancels || also) result
  | .pending also next => .pending (cancels || also) next
  | .idle => if cancels then .pending true .idle else .idle

/-- Goes on with more work, within the look that finds the first finished. -/
def Work.bind {α β : Type} (work : Work α) (f : α → Work β) : Work β :=
  match work with
  | .ready cancels result => (f result).cancelIf cancels
  | .pending cancels next => .pending cancels (next.bind f)
  | .idle => .idle

/-- What comes of work: its outcome, the context after it, and the number of
times it was looked at. -/
structure Ran (α : Type) where
  outcome : Outcome Error α
  context : Context
  looks : Nat

/-- Looks at work until it is finished, cancelled or late.  Idle work ends only
by a deadline, which then has passed; without one it never ends. -/
def Context.run {α : Type} (c : Context) (work : Work (Except Error α)) : Ran α :=
  if c.cancelled then ⟨.error .cancelled, c, 0⟩
  else
    match work with
    | .ready cancels result => ⟨.ofExcept result, c.cancelIf cancels, 1⟩
    | .pending cancels next =>
      let after := c.cancelIf cancels
      if c.deadline = some .passed then ⟨.error .deadlineExceeded, after, 1⟩
      else
        let ran := after.run next
        { ran with looks := ran.looks + 1 }
    | .idle =>
      match c.deadline with
      | some _ => ⟨.error .deadlineExceeded, { c with deadline := some .passed }, 1⟩
      | none => ⟨.endless, c, 1⟩

end Responder.Action
