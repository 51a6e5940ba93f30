/-
# Responder.Template.Node -- what is left of source after trimming

A template is a sequence of texts and actions.  An action or comment may trim
the text that was placed last before it and the text that comes next after it;
a text of which nothing remains is dropped.
-/
import Responder.Template.Pipeline
import Responder.Text.Blank

namespace Responder.Template

set_option autoImplicit false

/-- A segment whose tokens have been read. -/
inductive Piece where
  | text (chars : List Char)
  | action (pipeline : Pipeline) (offset : Nat) (trim : Trim)
  | comment (trim : Trim)

/-- A part of a template: text to copy, or a pipeline and its action's place. -/
inductive Node where
  | text (chars : List Char)
  | action (pipeline : Pipeline) (offset : Nat)

/-- Text without the white space at its start. -/
def trimStart (cs : List Char) : List Char := cs.dropWhile Text.isBlank

/-- Text without the white space at its end. -/
def trimEnd (cs : List Char) : List Char := (cs.reverse.dropWhile Text.isBlank).reverse

/-- A text node, unless it would be empty. -/
def textNode (chars : List Char) : List Node := if chars = [] then [] else [.text chars]

/-- Nodes placed so far, newest first, with white space taken off the end of
the newest if that is text. -/
def trimNewest : List Node → List Node
  | .text chars :: rest => textNode (trimEnd chars) ++ rest
  | nodes => nodes

/-- Nodes placed so far, newest first, and whether the next text is trimmed. -/
structure Placement where
  nodes : List Node
  trimNext : Bool

/-- Makes room for an action or comment: trims on its left if that is asked. -/
def Placement.trimmed (p : Placement) (left : Bool) : List Node :=
  if left then trimNewest p.nodes else p.nodes

/-- Places one more piece. -/
def Placement.add (p : Placement) : Piece → Placement
  | .text chars =>
    ⟨textNode (if p.trimNext then trimStart chars else chars) ++ p.nodes, false⟩
  | .comment trim => ⟨p.trimmed trim.left, trim.right⟩
  | .action pipeline offset trim =>
    ⟨.action pipeline offset :: p.trimmed trim.left, trim.right⟩

/-- The nodes of a sequence of pieces. -/
def Node.ofPieces (pieces : List Piece) : List Node :=
  (pieces.foldl Placement.add ⟨[], false⟩).nodes.reverse

end Responder.Template
