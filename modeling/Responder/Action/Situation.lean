/-
# Responder.Action.Situation -- a context and the world around it

The world is whatever actions act on; only its services look inside.
-/
import Responder.Action.Context

namespace Responder.Action

set_option autoImplicit false

/-- What carrying out actions can change: their context and the world. -/
structure Situation (σ : Type) where
  context : Context
  world : σ

namespace Situation

variable {σ α : Type}

/-- Looks at work under the context until something ends it. -/
def await (s : Situation σ) (work : Work (Except Error α)) : Outcome Error α × Situation σ :=
  let ran := s.context.run work
  (ran.outcome, { s with context := ran.context })

/-- Cancels the context. -/
def cancel (s : Situation σ) : Situation σ := { s with context := s.context.cancel }

end Situation

end Responder.Action
