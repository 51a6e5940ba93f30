/-
# Responder.Host.Script -- a host that follows a script

A script says in advance how each request and each program will turn out, and
everything that is asked of the host is logged.  Each request takes the next
reply and each program that is found the next ending; when the script has no
more, requests succeed with an empty body and programs exit with zero.
-/
import Responder.Host.Services

namespace Responder.Host

set_option autoImplicit false

/-- How something turns out that is waited for. -/
inductive Course (α : Type) where
  /-- It comes; the context may be cancelled in the same moment. -/
  | comes (result : α) (cancels : Bool)
  /-- The context is cancelled, and it does not come. -/
  | cancelled
  /-- It does not come before a deadline passes. -/
  | hanging
  deriving DecidableEq

/-- A course as work. -/
def Course.work {α : Type} : Course α → Action.Work α
  | .comes result cancels => .ready cancels result
  | .cancelled => .pending true .idle
  | .hanging => .idle

/-- A response with the course of its body, which may break off. -/
structure Answer where
  status : Nat
  body : Course (Option (List UInt8))
  deriving DecidableEq

/-- How a request turns out: with a response, or without one, also when the client
gives up. -/
abbrev Reply := Course (Option Answer)

/-- How a program turns out that is found. -/
inductive Ending where
  /-- It cannot be started. -/
  | unstarted (fault : Fault)
  /-- It is started, and may leave its input unread. -/
  | started (reads : Bool) (fed : Course (Except Fault Unit)) (waited : Course (Except Fault ExitStatus))

/-- What has been asked of a host. -/
inductive Logged where
  | posted (request : Request)
  /-- A program was started, and read its input or not. -/
  | started (command : Command) (reads : Bool)
  deriving DecidableEq

/-- What is still to happen, and what has happened, in order. -/
structure Script where
  replies : List Reply
  endings : List Ending
  log : List Logged
  /-- The programs that were killed. -/
  killed : List Command

/-- Whether responses with a status have no body. -/
def bodyless (status : Nat) : Bool := status == 204 || status == 304

/-- The course of what is sent behind the head of an answer. -/
def Answer.sent (answer : Answer) : Course (Option (List UInt8)) :=
  if bodyless answer.status then .comes (some []) false else answer.body

namespace Reply

/-- A response; an incomplete body breaks off. -/
def response (status : Nat) (body : List UInt8) (complete : Bool) : Reply :=
  .comes (some ⟨status, .comes (if complete then some body else none) false⟩) false

/-- The connection ends without a response. -/
def dropped : Reply := .comes none false

/-- What happens when no reply is scripted. -/
def default : Reply := response 200 [] true

/-- A reply as work. -/
def work (reply : Reply) : Action.Work (Option Response) :=
  (Course.work reply).map fun answer? => answer?.map fun answer => ⟨answer.status, answer.sent.work⟩

end Reply

namespace Ending

/-- A program ends, and may leave its input unread. -/
def ended (status : ExitStatus) (reads : Bool) : Ending :=
  .started reads (.comes (.ok ()) false) (.comes (.ok status) false)

/-- A program is fed, and does not end. -/
def hanging : Ending := .started true (.comes (.ok ()) false) .hanging

/-- What happens when no ending is scripted. -/
def default : Ending := ended (.ofCode 0) true

end Ending

namespace Script

/-- How the next request will turn out. -/
def nextReply (s : Script) : Reply := s.replies.headD .default

/-- How the next program that is found will turn out. -/
def nextEnding (s : Script) : Ending := s.endings.headD .default

/-- Takes the next reply for a request. -/
def post (request : Request) (s : Script) : Action.Work (Option Response) × Script :=
  (s.nextReply.work, { s with replies := s.replies.tail, log := s.log ++ [.posted request] })

/-- Takes the next ending for a program; one that cannot be started is not logged. -/
def start (command : Command) (s : Script) : Except Fault Child × Script :=
  match s.nextEnding with
  | .unstarted fault => (.error fault, { s with endings := s.endings.tail })
  | .started reads fed waited =>
    (.ok ⟨fed.work, waited.work⟩,
      { s with endings := s.endings.tail, log := s.log ++ [.started command reads] })

/-- Notes that a program was killed. -/
def kill (command : Command) (s : Script) : Script := { s with killed := s.killed ++ [command] }

/-- The services of a host that follows a script: `find` says which programs there
are.  A program that is not found takes no ending. -/
def services (find : Command → Except Fault Unit) : Services Script where
  post := post
  start command s :=
    match find command with
    | .error fault => (.error fault, s)
    | .ok () => start command s
  kill := kill

end Script

end Responder.Host
