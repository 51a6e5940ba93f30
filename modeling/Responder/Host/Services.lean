/-
# Responder.Host.Services -- what actions ask of the world

A host sends requests and starts programs.  Both go on as work: a request until
a response comes or it is clear that none will, a program until its input is
written and it has ended.  The client that sends requests belongs to the host.
It follows redirects, so the response is that of the last address; and it gives
up on a request after five seconds, so work on a request goes on for longer only
if it is cut off before.
-/
import Responder.Action.Situation
import Responder.Url.Basic

namespace Responder.Host

set_option autoImplicit false

open Responder.Action (Work)

/-- A request that posts a JSON text. -/
structure Request where
  url : Url
  token : Option String
  body : String
  deriving DecidableEq

/-- A response, of which the body may take a while, or never be complete. -/
structure Response where
  status : Nat
  body : Work (Option (List UInt8))

/-- A program to start, and what it can read from its standard input. -/
structure Command where
  path : String
  args : List String
  input : String
  deriving DecidableEq

/-- A program that was started: its input is written first, and then it is waited for. -/
structure Child where
  feeding : Work (Except Fault Unit)
  waiting : Work (Except Fault ExitStatus)

/-- What a host with states `σ` does when asked. -/
structure Services (σ : Type) where
  /-- Sends a request; it may get no response. -/
  post : Request → σ → Work (Option Response) × σ
  /-- Starts a program, if it can be started. -/
  start : Command → σ → Except Fault Child × σ
  /-- Kills a program that was started, and waits until it is gone. -/
  kill : Command → σ → σ

end Responder.Host
