/-
# Responder.Template.Parser -- reading the tokens of an action

Tokens are read one at a time by a machine that holds the pipeline being read
and, outside it, the pipelines in which a parenthesis is still open.  Whether a
pipeline's commands fit together is asked only when it is complete, so a flaw
further to the right inside it is reported first.
-/
import Responder.Template.Pipeline

namespace Responder.Template

set_option autoImplicit false

/-- Why tokens are no pipeline. -/
inductive SyntaxError where
  | flaw (flaw : Flaw)
  | unknownFunction (function : String)
  /-- `field` was given this number of arguments. -/
  | argCount (got : Nat)
  deriving DecidableEq

/-- A command as it is read: an operand, or a call with its arguments so far. -/
inductive Command where
  | value (operand : Operand)
  | call (args : List Operand)

/-- A pipeline being read: the place of its first token once there is one, the
complete commands, and the command being read. -/
structure Frame where
  start : Option Nat
  complete : List Command
  current : Option Command

/-- A pipeline of which nothing is read yet. -/
def Frame.empty : Frame := ⟨none, [], none⟩

/-- The pipeline being read and those around it, innermost first. -/
structure Reading where
  inner : Frame
  outer : List Frame

/-- The operand that one token makes. -/
def Token.operand? : Token → Option Operand
  | .dot => some .dot
  | .chain names => some (.chain names)
  | .text s => some (.literal (.text s))
  | .number n => some (.literal (.number n))
  | .bool b => some (.literal (.bool b))
  | .nil => some (.literal .nil)
  | .name _ | .pipe | .openParen | .closeParen => none

/-- The first command of a pipeline. -/
def Command.begin : Command → Except SyntaxError Pipeline
  | .value o => .ok (.value o)
  | .call [object, name] => .ok (.field object name)
  | .call args => .error (.argCount args.length)

/-- A pipeline with one more command; the place is that of its first token. -/
def Pipeline.extend (start : Nat) (p : Pipeline) : Command → Except SyntaxError Pipeline
  | .value _ => .error (.flaw ⟨start, .valueInPipe⟩)
  | .call [object] => .ok (.pipe p object)
  | .call args => .error (.argCount (args.length + 1))

/-- The pipeline of a sequence of commands. -/
def Pipeline.ofCommands (start : Nat) : List Command → Except SyntaxError Pipeline
  | [] => .error (.flaw ⟨start, .missingValue⟩)
  | first :: rest => do rest.foldlM (Pipeline.extend start) (← first.begin)

/-- The frame after one more operand: it starts a command or is an argument. -/
def Frame.give (f : Frame) (o : Operand) : Frame :=
  match f.current with
  | some (.call args) => { f with current := some (.call (args ++ [o])) }
  | _ => { f with current := some (.value o) }

/-- The error for a name where a function is called or an argument is due. -/
def nameError (name : String) : SyntaxError :=
  if name = fieldName then .argCount 0 else .unknownFunction name

/-- Reads one token. -/
def Reading.step (r : Reading) (t : Placed) : Except SyntaxError Reading :=
  let f := { r.inner with start := some (r.inner.start.getD t.offset) }
  match t.token, f.current with
  | .pipe, none | .closeParen, none => .error (.flaw ⟨t.offset, .missingValue⟩)
  | .pipe, some c => .ok { r with inner := { f with complete := f.complete ++ [c], current := none } }
  | .closeParen, some c =>
    match r.outer with
    | [] => .error (.flaw ⟨t.offset, .strayParen⟩)
    | g :: outer => do
      let p ← Pipeline.ofCommands (f.start.getD t.offset) (f.complete ++ [c])
      return ⟨g.give (.group p), outer⟩
  | _, some (.value _) => .error (.flaw ⟨t.offset, .argumentToValue⟩)
  | .name name, none =>
    if name = fieldName then .ok { r with inner := { f with current := some (.call []) } }
    else .error (.unknownFunction name)
  | .name name, some (.call _) => .error (nameError name)
  | .openParen, _ => .ok ⟨Frame.empty, f :: r.outer⟩
  | token, _ =>
    match token.operand? with
    | some o => .ok { r with inner := f.give o }
    | none => .error (.flaw ⟨t.offset, .missingValue⟩)

/-- The pipeline of a reading that has come to the end of the action at `offset`. -/
def Reading.finish (offset : Nat) (r : Reading) : Except SyntaxError Pipeline :=
  let start := r.inner.start.getD offset
  match r.inner.current, r.outer with
  | none, _ => .error (.flaw ⟨offset, .missingValue⟩)
  | some _, _ :: _ => .error (.flaw ⟨start, .unclosedParen⟩)
  | some c, [] => Pipeline.ofCommands start (r.inner.complete ++ [c])

/-- The pipeline that the tokens of the action at `offset` make. -/
def Pipeline.ofTokens (offset : Nat) (tokens : List Placed) : Except SyntaxError Pipeline := do
  let r ← tokens.foldlM Reading.step ⟨Frame.empty, []⟩
  r.finish offset

end Responder.Template
