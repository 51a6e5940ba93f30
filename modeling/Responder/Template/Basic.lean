/-
# Responder.Template.Basic -- templates, compiled and rendered

A template is compiled once: its source is scanned to the end, then its actions
are read in order, and the first flaw is the error.  Rendering copies the texts
and writes the value of every action in order, and can fail only on the data.
-/
import Responder.Template.Segment
import Responder.Template.Parser
import Responder.Template.Node
import Responder.Template.Eval
import Responder.Event.Basic

namespace Responder

set_option autoImplicit false

namespace Template

/-- Why a template of this name does not compile, or does not render. -/
inductive Error where
  | parse (name : String) (line : Nat) (fault : Fault)
  | unknownFunction (name : String) (function : String)
  | argCount (name : String) (got : Nat)
  | render (name : String) (line : Nat) (fault : RenderFault)
  deriving DecidableEq

/-- An error in words. -/
def Error.message : Error → String
  | .parse name line fault =>
    "template: " ++ name ++ ":" ++ toString line ++ ": " ++ fault.message
  | .unknownFunction name function =>
    "template: " ++ name ++ ": function " ++ Text.quoted function ++ " not defined"
  | .argCount name got =>
    "template: " ++ name ++ ": wrong number of args for " ++ fieldName ++ ": want " ++
      toString fieldArity ++ " got " ++ toString got
  | .render name line fault =>
    "template: " ++ name ++ ":" ++ toString line ++ ": executing: " ++ fault.message

/-- A segment with its tokens read. -/
def Segment.read : Segment → Except SyntaxError Piece
  | .text chars => .ok (.text chars)
  | .action tokens offset trim => do
    return .action (← Pipeline.ofTokens offset tokens) offset trim
  | .comment trim => .ok (.comment trim)

/-- A syntax error in the source of a named template. -/
def SyntaxError.located (name : String) (source : List Char) : SyntaxError → Error
  | .flaw f => .parse name (lineAt source f.offset) f.fault
  | .unknownFunction function => .unknownFunction name function
  | .argCount got => .argCount name got

/-- The pieces of a source. -/
def pieces (source : List Char) : Except SyntaxError (List Piece) := do
  (← (scan source).mapError SyntaxError.flaw).mapM Segment.read

end Template

/-- A compiled template. -/
structure Template where
  name : String
  source : List Char
  nodes : List Template.Node

namespace Template

/-- The template of a source text. -/
def compile (name : String) (source : String) : Except Error Template :=
  match pieces source.toList with
  | .ok pieces => .ok ⟨name, source.toList, Node.ofPieces pieces⟩
  | .error e => .error (e.located name source.toList)

/-- The text of a node on a record. -/
def renderNode (t : Template) (dot : Json) : Node → Except Error (List Char)
  | .text chars => .ok chars
  | .action pipeline offset =>
    match pipeline.eval dot with
    | .ok value => .ok (valueChars value)
    | .error fault => .error (.render t.name (lineAt t.source offset) fault)

/-- The text of a template on an event; the first action that fails is the error. -/
def render (t : Template) (event : Event) : Except Error String := do
  return String.ofList (← t.nodes.mapM (t.renderNode event.json)).flatten

end Template

end Responder
