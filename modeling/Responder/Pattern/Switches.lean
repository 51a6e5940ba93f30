/-
# Responder.Pattern.Switches -- what a pattern denotes under its switches

The switches at a place of a pattern decide what its signs denote.  A pattern
that works on bytes instead of characters must not be able to match a part of a
character.
-/
import Responder.Pattern.Regex
import Responder.Pattern.Syntax

namespace Responder.Pattern

set_option autoImplicit false

/-- The switches at a place of a pattern. -/
structure Switches where
  ignoreCase : Bool
  multiLine : Bool
  dotAll : Bool
  unicode : Bool
  crlf : Bool

namespace Switches

/-- The switches at the start of a pattern. -/
def initial : Switches := ⟨false, false, false, true, false⟩

/-- The switches after a change. -/
def apply (s : Switches) (change : FlagChange) : Switches :=
  { ignoreCase := (change.state? .ignoreCase).getD s.ignoreCase
    multiLine := (change.state? .multiLine).getD s.multiLine
    dotAll := (change.state? .dotAll).getD s.dotAll
    unicode := (change.state? .unicode).getD s.unicode
    crlf := (change.state? .crlf).getD s.crlf }

/-! ## Sets -/

/-- A set closed under differences of case, if the switch asks for it. -/
def fold (s : Switches) (set : CharSet) : CharSet :=
  if s.ignoreCase then if s.unicode then set.anyCase else set.anyAsciiCase else set

/-- A set that may be used: bytes beyond ASCII would match parts of characters. -/
def permit (s : Switches) (set : CharSet) : Option CharSet :=
  if s.unicode || set.isAscii then some set else none

/-- Whether a character may stand in a set. -/
def permitsMember (s : Switches) (c : Char) : Bool := s.unicode || c.toNat < 128

/-- The characters that a dot matches. -/
def dot (s : Switches) : CharSet :=
  if s.dotAll then .all
  else if s.crlf then (CharSet.ofRanges [(10, 10), (13, 13)]).compl
  else (CharSet.single '\n').compl

end Switches

mutual

/-- The set that a part of a bracket expression denotes.  Case is dropped before
a set is negated. -/
def SetItem.set? (s : Switches) : SetItem → Option CharSet
  | .empty => some .empty
  | .literal c _ => if s.permitsMember c then some (.single c) else none
  | .range low high _ _ =>
    if s.permitsMember low && s.permitsMember high then some (.between low high) else none
  | .ascii name negated => s.permit (.complIf negated (s.fold name.set))
  | .shorthand name negated => s.permit (.complIf negated (name.set s.unicode))
  | .property query negated =>
    if s.unicode then
      query.set?.map fun set => .complIf (negated != query.isNegated) (s.fold set)
    else none
  | .bracket negated item => do s.permit (.complIf negated (s.fold (← item.set? s)))
  | .union items => SetItem.setOfAll? s items
  | .operation op left right => do
    let l := s.fold (← left.set? s)
    let r := s.fold (← right.set? s)
    match op with
    | .intersection => return l.inter r
    | .difference => return l.diff r
    | .symmetricDifference => return l.symDiff r

/-- The union of the sets of several parts. -/
def SetItem.setOfAll? (s : Switches) : List SetItem → Option CharSet
  | [] => some .empty
  | item :: rest => do return (← item.set? s).union (← SetItem.setOfAll? s rest)

end

/-! ## Patterns -/

/-- The condition that an assertion makes under the switches. -/
def Assertion.look (s : Switches) : Assertion → Look
  | .lineStart => if s.multiLine then if s.crlf then .crlfLineStart else .lineStart else .start
  | .lineEnd => if s.multiLine then if s.crlf then .crlfLineStop else .lineStop else .stop
  | .textStart => .start
  | .textEnd => .stop
  | .boundary => .boundary s.unicode
  | .notBoundary => .notBoundary s.unicode
  | .wordStart => .wordStart s.unicode
  | .wordEnd => .wordEnd s.unicode
  | .wordStartHalf => .wordStartHalf s.unicode
  | .wordEndHalf => .wordEndHalf s.unicode

mutual

/-- The regular expression of a pattern, and the switches after it: a change
inside a group ends with the group. -/
def Ast.regex? (s : Switches) : Ast → Option (Regex × Switches)
  | .empty => some (.empty, s)
  | .flags change => some (.empty, s.apply change)
  | .literal c isByte =>
    if !s.unicode && isByte && 128 ≤ c.toNat then none
    else some (.ofSet (s.fold (.single c)), s)
  | .dot => if s.unicode then some (.ofSet s.dot, s) else none
  | .assertion kind => some (.look (kind.look s), s)
  | .set item => do return (.ofSet (← item.set? s), s)
  | .repetition least most body => do
    let (r, after) ← body.regex? s
    return (.repeated least most r, after)
  | .group captures change body => do
    let (r, _) ← body.regex? (s.apply change)
    return (if captures then .capture r else r, s)
  | .alternation branches => do
    let (parts, after) ← Ast.allRegex? s branches
    return (.ofBranches parts, after)
  | .concat items => do
    let (parts, after) ← Ast.allRegex? s items
    return (.ofItems parts, after)

/-- The regular expressions of several patterns, each under the switches that
the one before leaves. -/
def Ast.allRegex? (s : Switches) : List Ast → Option (List Regex × Switches)
  | [] => some ([], s)
  | item :: rest => do
    let (r, s) ← item.regex? s
    let (more, s) ← Ast.allRegex? s rest
    return (r :: more, s)

end

end Responder.Pattern
