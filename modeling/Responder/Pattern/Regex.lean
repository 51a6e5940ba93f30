/-
# Responder.Pattern.Regex -- regular expressions over characters and places

What a pattern denotes once its switches are resolved.  Which of several matches
is found first never matters here, so greed is dropped.  Expressions are built
in a simplified form: parts that match nothing but the empty text are not
repeated, neighbouring literals are one, nested sequences and choices are
flat, a choice between single characters is a set, and a choice between
sequences that start alike has their common start in front of it.
-/
import Responder.Pattern.CharSet

namespace Responder.Pattern

set_option autoImplicit false

/-- Conditions on a place, with the switches resolved. -/
inductive Look where
  | start | stop
  | lineStart | lineStop
  | crlfLineStart | crlfLineStop
  | boundary (unicode : Bool) | notBoundary (unicode : Bool)
  | wordStart (unicode : Bool) | wordEnd (unicode : Bool)
  | wordStartHalf (unicode : Bool) | wordEndHalf (unicode : Bool)
  deriving DecidableEq

/-- A regular expression. -/
inductive Regex where
  | empty
  | literal (text : List Char)
  | chars (set : CharSet)
  | look (kind : Look)
  | repetition (least : Nat) (most : Option Nat) (body : Regex)
  | capture (body : Regex)
  | concat (items : List Regex)
  | alternation (branches : List Regex)

namespace Regex

/-! ## Lengths -/

mutual

/-- Whether an expression matches the empty text at most. -/
def isZeroWidth : Regex → Bool
  | .empty | .look _ => true
  | .literal _ | .chars _ => false
  | .repetition _ _ body | .capture body => body.isZeroWidth
  | .concat parts | .alternation parts => allZeroWidth parts

/-- Whether all parts match the empty text at most. -/
def allZeroWidth : List Regex → Bool
  | [] => true
  | part :: rest => part.isZeroWidth && allZeroWidth rest

end

mutual

/-- The least number of characters that an expression matches, if it is known to
match anything. -/
def leastLength? : Regex → Option Nat
  | .empty | .look _ => some 0
  | .literal text => some text.length
  | .chars set => if set.edges = [] then none else some 1
  | .repetition least _ body => body.leastLength?.map (least * ·)
  | .capture body => body.leastLength?
  | .concat items => sumLength? items
  | .alternation branches => minLength? branches

/-- The least number of characters that a sequence matches. -/
def sumLength? : List Regex → Option Nat
  | [] => some 0
  | item :: rest => do return (← item.leastLength?) + (← sumLength? rest)

/-- The least number of characters that one of several branches matches. -/
def minLength? : List Regex → Option Nat
  | [] => none
  | [branch] => branch.leastLength?
  | branch :: rest => do return min (← branch.leastLength?) (← minLength? rest)

end

/-! ## Building expressions -/

/-- One character of a set. -/
def ofSet (set : CharSet) : Regex :=
  match set.only? with
  | some c => .literal [c]
  | none => .chars set

/-- The expression that nothing matches. -/
def never : Regex := .chars .empty

/-- An expression repeated; one that takes no character need not be repeated. -/
def repeated (least : Nat) (most : Option Nat) (body : Regex) : Regex :=
  let bounds := if body.isZeroWidth then (min least 1, some ((most.map (min · 1)).getD 1)) else (least, most)
  match bounds with
  | (0, some 0) => .empty
  | (1, some 1) => body
  | (least, most) => .repetition least most body

/-- The parts that an expression adds to a sequence. -/
def items : Regex → List Regex
  | .empty => []
  | .concat parts => parts
  | r => [r]

/-- A part in front of others, joined to a literal that follows a literal. -/
def glue : Regex → List Regex → List Regex
  | .literal a, .literal b :: rest => .literal (a ++ b) :: rest
  | part, rest => part :: rest

/-- Expressions one after another. -/
def ofItems (parts : List Regex) : Regex :=
  match (parts.flatMap items).foldr glue [] with
  | [] => .empty
  | [part] => part
  | parts => .concat parts

/-- The branches that an expression adds to a choice. -/
def branches : Regex → List Regex
  | .alternation parts => parts
  | r => [r]

/-- The characters that an expression for one character stands for. -/
def oneOf? : Regex → Option CharSet
  | .literal [c] => some (.single c)
  | .chars set => some set
  | _ => none

/-- Expressions of which one matches, none of them a choice. -/
def choice (parts : List Regex) : Regex :=
  match parts.mapM oneOf? with
  | some sets => ofSet (.unionAll sets)
  | none => .alternation parts

/-! ## Common starts -/

mutual

/-- Whether two expressions are the same; those that capture never are, as each
captures for itself. -/
def same : Regex → Regex → Bool
  | .empty, .empty => true
  | .literal a, .literal b => a == b
  | .chars a, .chars b => a == b
  | .look a, .look b => a == b
  | .repetition least most x, .repetition least' most' y =>
    least == least' && most == most' && same x y
  | .concat xs, .concat ys => allSame xs ys
  | .alternation xs, .alternation ys => allSame xs ys
  | _, _ => false

/-- Whether expressions are the same one by one. -/
def allSame : List Regex → List Regex → Bool
  | [], [] => true
  | x :: xs, y :: ys => same x y && allSame xs ys
  | _, _ => false

end

/-- The parts with which two sequences start alike. -/
def sharedItems : List Regex → List Regex → List Regex
  | x :: xs, y :: ys => if x.same y then x :: sharedItems xs ys else []
  | _, _ => []

/-- The parts of an expression that is a sequence. -/
def sequence : Regex → List Regex
  | .concat parts => parts
  | _ => []

/-- The parts with which all of several sequences start. -/
def commonStart : List Regex → List Regex
  | [] => []
  | first :: rest => rest.foldl (fun start r => sharedItems start r.sequence) first.sequence

/-- Expressions of which one matches.  What remains behind a common start has no
common start again. -/
def ofBranches (parts : List Regex) : Regex :=
  match parts.flatMap branches with
  | [] => never
  | [part] => part
  | parts =>
    match commonStart parts with
    | [] => choice parts
    | start =>
      let rests := parts.map fun r => ofItems (r.sequence.drop start.length)
      ofItems (start ++ [choice (rests.flatMap branches)])

end Regex

end Responder.Pattern
