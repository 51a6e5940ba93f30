/-
# Responder.Pattern.Syntax -- what a pattern says

The tree of a pattern as it is written.  How far constructs stand inside one
another is limited (`Ast.depth`, `SetItem.depth`).
-/
import Responder.Pattern.Named

namespace Responder.Pattern

set_option autoImplicit false

/-- The switches of a pattern. -/
inductive Flag where
  | ignoreCase | multiLine | dotAll | swapGreed | unicode | crlf | ignoreSpace
  deriving DecidableEq

/-- Switches turned on or off. -/
abbrev FlagChange := List (Flag × Bool)

/-- The state that a change gives a switch, if it mentions it. -/
def FlagChange.state? (change : FlagChange) (flag : Flag) : Option Bool :=
  (change.find? fun entry => entry.1 = flag).map (·.2)

/-- Operations on sets inside brackets. -/
inductive SetOp where
  | intersection | difference | symmetricDifference
  deriving DecidableEq

/-- What stands inside brackets. -/
inductive SetItem where
  | empty
  | literal (c : Char) (isByte : Bool)
  | range (low high : Char) (lowIsByte highIsByte : Bool)
  | ascii (name : AsciiClass) (negated : Bool)
  | shorthand (name : Shorthand) (negated : Bool)
  | property (query : PropertyQuery) (negated : Bool)
  | bracket (negated : Bool) (item : SetItem)
  | union (items : List SetItem)
  | operation (op : SetOp) (left right : SetItem)

/-- Conditions on a place between characters. -/
inductive Assertion where
  | lineStart | lineEnd | textStart | textEnd
  | boundary | notBoundary | wordStart | wordEnd | wordStartHalf | wordEndHalf
  deriving DecidableEq

/-- A pattern as it is written. -/
inductive Ast where
  | empty
  | flags (change : FlagChange)
  /-- A character; `isByte` when it is written as a number of at most two digits' worth. -/
  | literal (c : Char) (isByte : Bool)
  | dot
  | assertion (kind : Assertion)
  | set (item : SetItem)
  | repetition (least : Nat) (most : Option Nat) (body : Ast)
  | group (captures : Bool) (change : FlagChange) (body : Ast)
  | alternation (branches : List Ast)
  | concat (items : List Ast)

/-- The greatest depth of constructs inside one another. -/
def maxDepth : Nat := 250

mutual

/-- How deep the parts of a bracket expression stand inside one another. -/
def SetItem.depth : SetItem → Nat
  | .empty | .literal .. | .range .. | .ascii .. | .shorthand .. | .property .. => 0
  | .bracket _ item => item.depth + 1
  | .union items => SetItem.depthOfAll items + 1
  | .operation _ left right => max left.depth right.depth + 1

/-- The greatest depth of several parts. -/
def SetItem.depthOfAll : List SetItem → Nat
  | [] => 0
  | item :: rest => max item.depth (SetItem.depthOfAll rest)

end

mutual

/-- How deep the parts of a pattern stand inside one another. -/
def Ast.depth : Ast → Nat
  | .empty | .flags _ | .literal .. | .dot | .assertion _ => 0
  | .set item => item.depth
  | .repetition _ _ body | .group _ _ body => body.depth + 1
  | .alternation parts | .concat parts => Ast.depthOfAll parts + 1

/-- The greatest depth of several parts. -/
def Ast.depthOfAll : List Ast → Nat
  | [] => 0
  | part :: rest => max part.depth (Ast.depthOfAll rest)

end

/-- Parts one after another; a single part stands for itself. -/
def Ast.ofItems : List Ast → Ast
  | [] => .empty
  | [item] => item
  | items => .concat items

/-- Parts of which one matches; a single part stands for itself. -/
def Ast.ofBranches : List Ast → Ast
  | [branch] => branch
  | branches => .alternation branches

/-- Parts of a set; a single part stands for itself. -/
def SetItem.ofItems : List SetItem → SetItem
  | [] => .empty
  | [item] => item
  | items => .union items

end Responder.Pattern
