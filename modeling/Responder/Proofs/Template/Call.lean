/-
# Responder.Proofs.Template.Call -- actions as calls of any number of arguments

The form of a pipeline leaves no room for a call with a wrong number of arguments.
Here an action is no more than a list of commands, as they are carried out one
after another: each is handed the value of the one before, which a call takes as
its last argument, and nothing but the call itself counts its arguments.
-/
import Responder.Template.Eval

namespace Responder.Template

set_option autoImplicit false

mutual

/-- An argument as it is carried out. -/
inductive Arg where
  | dot
  | chain (names : List String)
  | literal (value : Literal)
  | group (calls : List Call)

/-- A command as it is carried out. -/
inductive Call where
  | value (arg : Arg)
  | field (args : List Arg)

end

/-- Why calls have no value on a record. -/
inductive CallFault where
  | data (fault : RenderFault)
  /-- `field` is given more or fewer than two values. -/
  | argCount
  deriving DecidableEq

/-- Calls `field` with values. -/
def callField : List Json → Except CallFault Json
  | [object, name] => (fieldValue object name).mapError .data
  | _ => .error .argCount

mutual

/-- The value of an argument. -/
def Arg.eval (dot : Json) : Arg → Except CallFault Json
  | .dot => .ok dot
  | .chain names => (chainValue names dot).mapError .data
  | .literal l => .ok l.json
  | .group calls => Call.evalAll dot none calls

/-- The values of arguments, from the first to the last. -/
def Arg.evalAll (dot : Json) : List Arg → Except CallFault (List Json)
  | [] => .ok []
  | arg :: rest => do return (← arg.eval dot) :: (← Arg.evalAll dot rest)

/-- The value of a command that is handed a value, or none if it is the first. -/
def Call.eval (dot : Json) (piped : Option Json) : Call → Except CallFault Json
  | .value arg => arg.eval dot
  | .field args => do callField ((← Arg.evalAll dot args) ++ piped.toList)

/-- The value of commands in a row, each handed the value of the one before. -/
def Call.evalAll (dot : Json) (piped : Option Json) : List Call → Except CallFault Json
  | [] => .ok (piped.getD .null)
  | call :: rest => do Call.evalAll dot (some (← call.eval dot piped)) rest

end

mutual

/-- An operand as it is carried out. -/
def Operand.arg : Operand → Arg
  | .dot => .dot
  | .chain names => .chain names
  | .literal l => .literal l
  | .group p => .group p.calls

/-- A pipeline as it is carried out. -/
def Pipeline.calls : Pipeline → List Call
  | .value o => [.value o.arg]
  | .field object name => [.field [object.arg, name.arg]]
  | .pipe p object => p.calls ++ [.field [object.arg]]

end

end Responder.Template
