/-
# Responder.Template.Pipeline -- what an action computes

A pipeline starts with an operand or a call of `field`, and may pass its value
on to further calls, each as the last argument.  Since `field` always takes a
value and a name, a pipeline in this form cannot be called with a wrong number
of arguments.  `tokens` is the one way to write a pipeline down.
-/
import Responder.Template.Token

namespace Responder.Template

set_option autoImplicit false

/-- A value written out in an action. -/
inductive Literal where
  | text (value : String)
  | number (value : Json.Number)
  | bool (value : Bool)
  | nil
  deriving DecidableEq

mutual

/-- An argument, or the start of a pipeline. -/
inductive Operand where
  /-- The current value. -/
  | dot
  /-- Names stepped through from the current value. -/
  | chain (names : List String)
  | literal (value : Literal)
  /-- A pipeline in parentheses. -/
  | group (pipeline : Pipeline)

/-- A sequence of commands, each passing its value on to the next. -/
inductive Pipeline where
  | value (operand : Operand)
  /-- `field object name` -/
  | field (object name : Operand)
  /-- `name | field object` -/
  | pipe (name : Pipeline) (object : Operand)

end

/-- The JSON value of a literal. -/
def Literal.json : Literal → Json
  | .text s => .string s
  | .number n => .number n
  | .bool b => .bool b
  | .nil => .null

/-- The token of a literal. -/
def Literal.token : Literal → Token
  | .text s => .text s
  | .number n => .number n
  | .bool b => .bool b
  | .nil => .nil

/-- The function that templates know. -/
def fieldName : String := "field"

/-- The number of its arguments. -/
def fieldArity : Nat := 2

mutual

/-- An operand written as tokens. -/
def Operand.tokens : Operand → List Token
  | .dot => [.dot]
  | .chain names => [.chain names]
  | .literal l => [l.token]
  | .group p => .openParen :: (p.tokens ++ [.closeParen])

/-- A pipeline written as tokens. -/
def Pipeline.tokens : Pipeline → List Token
  | .value o => o.tokens
  | .field object name => .name fieldName :: (object.tokens ++ name.tokens)
  | .pipe p object => p.tokens ++ .pipe :: .name fieldName :: object.tokens

end

end Responder.Template
