/-
# Responder.Pattern.Parser -- reading patterns

A pattern is read from left to right with the groups that are still open held
in a stack, and likewise a bracket expression with its open brackets.  Every
step takes at least one character; each loop asks for that, and so ends.  Look
around and references back to groups are no part of the language.
-/
import Responder.Pattern.Cursor
import Responder.Text.Letter

namespace Responder.Pattern

set_option autoImplicit false

/-! ## Escapes -/

/-- What an escape denotes. -/
inductive Primitive where
  | literal (c : Char) (isByte : Bool)
  | assertion (kind : Assertion)
  | shorthand (name : Shorthand) (negated : Bool)
  | property (query : PropertyQuery) (negated : Bool)

/-- The signs that mean something outside of escapes. -/
def isMeta (c : Char) : Bool :=
  "\\.+*?()|[]\x7b\x7d^$#&-~".toList.contains c

/-- Whether an escaped character stands for itself. -/
def isEscapable (c : Char) : Bool :=
  isMeta c || (c.toNat < 128 && !c.isAlphanum && c != '<' && c != '>')

/-- A number of characters, ignoring what may be ignored between them. -/
def takeCount (ignoreSpace : Bool) : Nat → List Char → Option (List Char × List Char)
  | 0, cs => some ([], cs)
  | _ + 1, [] => none
  | n + 1, c :: rest =>
    (takeCount ignoreSpace n (skip ignoreSpace rest)).map fun (cs, after) => (c :: cs, after)

/-- The character that a number in braces or of `count` digits denotes. -/
def takeHex (ignoreSpace : Bool) (count : Nat) (cs : List Char) : Option (Primitive × List Char) :=
  match skip ignoreSpace cs with
  | '{' :: rest =>
    match takeUntil ignoreSpace (· == '}') (skip ignoreSpace rest) with
    | (digits, _ :: after) => do
      return (.literal (← hexChar? digits) false, skip ignoreSpace after)
    | (_, []) => none
  | rest => do
    let (digits, after) ← takeCount ignoreSpace count rest
    return (.literal (← hexChar? digits) (count == 2), after)

/-- The two sides of a text around the first place where `sep` stands. -/
def splitAround? (sep : List Char) : List Char → Option (List Char × List Char)
  | [] => none
  | c :: rest =>
    if sep.isPrefixOf (c :: rest) then some ([], (c :: rest).drop sep.length)
    else (splitAround? sep rest).map fun (left, right) => (c :: left, right)

/-- The query that a name in braces makes. -/
def PropertyQuery.ofName (name : List Char) : PropertyQuery :=
  let valued (equal : Bool) (sides : List Char × List Char) : PropertyQuery :=
    .valued (String.ofList sides.1) (String.ofList sides.2) equal
  match splitAround? ['!', '='] name, splitAround? [':'] name, splitAround? ['='] name with
  | some sides, _, _ => valued false sides
  | none, some sides, _ => valued true sides
  | none, none, some sides => valued true sides
  | none, none, none => .named (String.ofList name)

/-- The property named after `\p` or `\P`. -/
def takeProperty (ignoreSpace negated : Bool) (cs : List Char) : Option (Primitive × List Char) :=
  match skip ignoreSpace cs with
  | [] => none
  | '{' :: rest =>
    match takeUntil ignoreSpace (· == '}') (skip ignoreSpace rest) with
    | (name, _ :: after) => some (.property (.ofName name) negated, after)
    | (_, []) => none
  | c :: rest =>
    if c = '\\' then none
    else some (.property (.named (String.singleton c)) negated, skip ignoreSpace rest)

/-- The special boundaries that a name in braces asks for. -/
def boundaryNamed? (name : String) : Option Assertion :=
  if name = "start" then some .wordStart
  else if name = "end" then some .wordEnd
  else if name = "start-half" then some .wordStartHalf
  else if name = "end-half" then some .wordEndHalf
  else none

/-- What follows `\b`: the name of a special boundary, or anything else. -/
def takeBoundary (ignoreSpace : Bool) (cs : List Char) : Option (Primitive × List Char) :=
  let isNameChar (c : Char) : Bool := (c.toNat < 128 && c.isAlpha) || c == '-'
  match cs with
  | '{' :: rest =>
    match skip ignoreSpace rest with
    | [] => none
    | c :: inner =>
      if isNameChar c then
        match takeUntil ignoreSpace (fun c => !isNameChar c) (c :: inner) with
        | (name, '}' :: after) =>
          (boundaryNamed? (String.ofList name)).map fun kind => (.assertion kind, after)
        | _ => none
      else some (.assertion .boundary, cs)
  | _ => some (.assertion .boundary, cs)

/-- The escape after a backslash. -/
def takeEscape (ignoreSpace : Bool) : List Char → Option (Primitive × List Char)
  | [] => none
  | c :: rest =>
    if isEscapable c then some (.literal c false, rest)
    else
      match c with
      | 'x' => takeHex ignoreSpace 2 rest
      | 'u' => takeHex ignoreSpace 4 rest
      | 'U' => takeHex ignoreSpace 8 rest
      | 'p' => takeProperty ignoreSpace false rest
      | 'P' => takeProperty ignoreSpace true rest
      | 'd' => some (.shorthand .digit false, rest)
      | 'D' => some (.shorthand .digit true, rest)
      | 's' => some (.shorthand .space false, rest)
      | 'S' => some (.shorthand .space true, rest)
      | 'w' => some (.shorthand .word false, rest)
      | 'W' => some (.shorthand .word true, rest)
      | 'a' => some (.literal '\x07' false, rest)
      | 'f' => some (.literal '\x0c' false, rest)
      | 't' => some (.literal '\t' false, rest)
      | 'n' => some (.literal '\n' false, rest)
      | 'r' => some (.literal '\r' false, rest)
      | 'v' => some (.literal '\x0b' false, rest)
      | 'A' => some (.assertion .textStart, rest)
      | 'z' => some (.assertion .textEnd, rest)
      | 'b' => takeBoundary ignoreSpace rest
      | 'B' => some (.assertion .notBoundary, rest)
      | '<' => some (.assertion .wordStart, rest)
      | '>' => some (.assertion .wordEnd, rest)
      | _ => none

/-! ## Bracket expressions -/

/-- A bracket that is still open: the part around it, or the left side of an operation. -/
inductive SetFrame where
  | bracket (negated : Bool) (around : List SetItem)
  | operation (op : SetOp) (left : SetItem)

/-- Completes an operation whose right side is at hand. -/
def closeOperation (item : SetItem) : List SetFrame → SetItem × List SetFrame
  | .operation op left :: stack => (.operation op left item, stack)
  | stack => (item, stack)

/-- The start of a bracket expression after its bracket: whether it is negated,
and the hyphens or closing bracket that stand for themselves there. -/
def openBracket (ignoreSpace : Bool) (cs : List Char) : Bool × List SetItem × List Char :=
  let cs := skip ignoreSpace cs
  let (negated, cs) :=
    match cs with
    | '^' :: rest => (true, skip ignoreSpace rest)
    | _ => (false, cs)
  let (hyphens, cs) := takeUntil ignoreSpace (· != '-') cs
  let items := hyphens.map fun c => SetItem.literal c false
  match items, cs with
  | [], ']' :: rest => (negated, [.literal ']' false], skip ignoreSpace rest)
  | _, _ => (negated, items, cs)

/-- A class in the form `[:name:]`, from behind its bracket. -/
def takeAsciiClass : List Char → Option (SetItem × List Char)
  | ':' :: rest =>
    let (negated, rest) :=
      match rest with
      | '^' :: more => (true, more)
      | _ => (false, rest)
    match rest.takeWhile (· != ':'), rest.dropWhile (· != ':') with
    | name, ':' :: ']' :: after =>
      (AsciiClass.ofName? (String.ofList name)).map fun c => (.ascii c negated, after)
    | _, _ => none
  | _ => none

/-- One end of a range, or a part of its own. -/
def takeSetPrimitive (ignoreSpace : Bool) : List Char → Option (Primitive × List Char)
  | [] => none
  | '\\' :: rest => takeEscape ignoreSpace rest
  | c :: rest => some (.literal c false, rest)

/-- A primitive as a part of a set. -/
def Primitive.setItem? : Primitive → Option SetItem
  | .literal c isByte => some (.literal c isByte)
  | .shorthand name negated => some (.shorthand name negated)
  | .property query negated => some (.property query negated)
  | .assertion _ => none

/-- A range or a single part of a set. -/
def takeSetItem (ignoreSpace : Bool) (cs : List Char) : Option (SetItem × List Char) := do
  let (first, rest) ← takeSetPrimitive ignoreSpace cs
  match skip ignoreSpace rest with
  | [] => none
  | '-' :: more =>
    let next := peek ignoreSpace more
    if next = some ']' ∨ next = some '-' then return (← first.setItem?, '-' :: more)
    else
      let (second, after) ← takeSetPrimitive ignoreSpace (skip ignoreSpace more)
      match first, second with
      | .literal low lowIsByte, .literal high highIsByte =>
        if low ≤ high then some (.range low high lowIsByte highIsByte, after) else none
      | _, _ => none
  | rest => return (← first.setItem?, rest)

/-- The operation whose sign stands here. -/
def takeSetOp : List Char → Option (SetOp × List Char)
  | '&' :: '&' :: rest => some (.intersection, rest)
  | '-' :: '-' :: rest => some (.difference, rest)
  | '~' :: '~' :: rest => some (.symmetricDifference, rest)
  | _ => none

/-- The state of reading a bracket expression: what is open, and the parts of
the innermost set, newest first. -/
structure SetReading where
  stack : List SetFrame
  items : List SetItem

/-- One step of reading a bracket expression: the whole expression, or more to read. -/
def SetReading.step (ignoreSpace : Bool) (r : SetReading) (cs : List Char) :
    Option ((SetItem ⊕ SetReading) × List Char) :=
  match cs with
  | [] => none
  | '[' :: rest =>
    match takeAsciiClass rest with
    | some (item, after) => some (.inr { r with items := item :: r.items }, after)
    | none =>
      let (negated, items, after) := openBracket ignoreSpace rest
      some (.inr ⟨.bracket negated r.items :: r.stack, items.reverse⟩, after)
  | ']' :: rest =>
    match closeOperation (.ofItems r.items.reverse) r.stack with
    | (item, [.bracket negated _]) => some (.inl (.bracket negated item), rest)
    | (item, .bracket negated around :: stack) =>
      some (.inr ⟨stack, .bracket negated item :: around⟩, rest)
    | _ => none
  | _ =>
    match takeSetOp cs with
    | some (op, rest) =>
      let (left, stack) := closeOperation (.ofItems r.items.reverse) r.stack
      some (.inr ⟨.operation op left :: stack, []⟩, rest)
    | none => do
      let (item, rest) ← takeSetItem ignoreSpace cs
      return (.inr { r with items := item :: r.items }, rest)

/-- Reads a bracket expression to its end. -/
def SetReading.finish (ignoreSpace : Bool) (r : SetReading) (cs : List Char) :
    Option (SetItem × List Char) :=
  match r.step ignoreSpace (skip ignoreSpace cs) with
  | none => none
  | some (.inl item, rest) => some (item, rest)
  | some (.inr next, rest) =>
    if rest.length < cs.length then next.finish ignoreSpace rest else none
termination_by cs.length

/-- The bracket expression that starts behind a bracket. -/
def takeBracket (ignoreSpace : Bool) (cs : List Char) : Option (SetItem × List Char) :=
  let (negated, items, rest) := openBracket ignoreSpace cs
  SetReading.finish ignoreSpace ⟨[.bracket negated []], items.reverse⟩ rest

/-! ## Groups and switches -/

/-- The switch of a letter. -/
def Flag.ofChar? : Char → Option Flag
  | 'i' => some .ignoreCase
  | 'm' => some .multiLine
  | 's' => some .dotAll
  | 'U' => some .swapGreed
  | 'u' => some .unicode
  | 'R' => some .crlf
  | 'x' => some .ignoreSpace
  | _ => none

/-- Switches up to a colon or closing parenthesis, with that sign; a switch may
be named once, and a minus sign must be followed by one. -/
def takeFlags (change : FlagChange) (off dangling : Bool) :
    List Char → Option (FlagChange × Char × List Char)
  | [] => none
  | c :: rest =>
    if c = ':' ∨ c = ')' then if dangling then none else some (change, c, rest)
    else if c = '-' then if off then none else takeFlags change true true rest
    else
      match Flag.ofChar? c with
      | none => none
      | some flag =>
        if (change.state? flag).isSome then none
        else takeFlags (change ++ [(flag, !off)]) off false rest

/-- A group's name up to the closing bracket. -/
def takeGroupName (cs : List Char) : Option (List Char × List Char) :=
  let name := cs.takeWhile (· != '>')
  let starts (c : Char) : Bool := c == '_' || Text.isLetter c
  let continues (c : Char) : Bool :=
    c == '_' || c == '.' || c == '[' || c == ']' || Text.isLetterOrNumber c
  match name, cs.dropWhile (· != '>') with
  | first :: more, _ :: after =>
    if starts first && more.all continues then some (name, after) else none
  | _, _ => none

/-- A group that is still open, with what stands before it in its own group. -/
structure Level where
  branches : List Ast
  items : List Ast
  captures : Bool
  change : FlagChange
  ignoreSpace : Bool

/-- The state of reading a pattern: the groups around this place, the branches
and parts of the innermost one, newest first, whether blanks are ignored, and
the group names so far. -/
structure Reading where
  levels : List Level
  branches : List Ast
  items : List Ast
  ignoreSpace : Bool
  names : List (List Char)

namespace Reading

/-- The start of a pattern. -/
def start : Reading := ⟨[], [], [], false, []⟩

/-- The parts of the innermost group as one pattern. -/
def body (r : Reading) : Ast := .ofBranches ((Ast.ofItems r.items.reverse :: r.branches).reverse)

/-- Adds a part. -/
def add (r : Reading) (item : Ast) : Reading := { r with items := item :: r.items }

/-- Opens a group. -/
def openGroup (r : Reading) (captures : Bool) (change : FlagChange) : Reading :=
  { r with
    levels := ⟨r.branches, r.items, captures, change, r.ignoreSpace⟩ :: r.levels
    branches := []
    items := []
    ignoreSpace := (change.state? .ignoreSpace).getD r.ignoreSpace }

/-- What stands behind an opening parenthesis. -/
def takeGroup (r : Reading) (cs : List Char) : Option (Reading × List Char) :=
  let named (rest : List Char) : Option (Reading × List Char) := do
    let (name, after) ← takeGroupName rest
    if r.names.contains name then none
    else some ({ r with names := name :: r.names }.openGroup true [], after)
  match skip r.ignoreSpace cs with
  | '?' :: '=' :: _ | '?' :: '!' :: _ | '?' :: '<' :: '=' :: _ | '?' :: '<' :: '!' :: _ => none
  | '?' :: 'P' :: '<' :: rest => named rest
  | '?' :: '<' :: rest => named rest
  | '?' :: rest => do
    let (change, sign, after) ← takeFlags [] false false rest
    if sign = ':' then some (r.openGroup false change, after)
    else if change = [] then none
    else some ({ r.add (.flags change) with
      ignoreSpace := (change.state? .ignoreSpace).getD r.ignoreSpace }, after)
  | rest => some (r.openGroup true [], rest)

/-- Closes the innermost group. -/
def closeGroup (r : Reading) : Option Reading :=
  match r.levels with
  | [] => none
  | level :: levels =>
    some { r with
      levels
      branches := level.branches
      items := Ast.group level.captures level.change r.body :: level.items
      ignoreSpace := level.ignoreSpace }

/-- Repeats the newest part, which must be one that can be repeated. -/
def repeatNewest (r : Reading) (least : Nat) (most : Option Nat) : Option Reading :=
  match r.items with
  | [] | .empty :: _ | .flags _ :: _ => none
  | item :: items => some { r with items := .repetition least most item :: items }

/-- The text after the sign of a reluctant repetition, if it stands here. -/
def skipReluctant (cs : List Char) : List Char :=
  match cs with
  | '?' :: rest => rest
  | _ => cs

/-- The bounds of a repetition from behind their brace. -/
def takeBounds (ignoreSpace : Bool) (cs : List Char) :
    Option ((Nat × Option Nat) × List Char) := do
  let (least, rest) := takeDecimal ignoreSpace (skip ignoreSpace cs)
  let (bounds, rest) ←
    match rest with
    | ',' :: more =>
      match skip ignoreSpace more with
      | '}' :: after => some ((← least, none), '}' :: after)
      | more => do
        let (most, after) := takeDecimal ignoreSpace more
        some ((← least, some (← most)), after)
    | _ => some ((← least, some (← least)), rest)
  match bounds, rest with
  | (low, some high), '}' :: after => if low ≤ high then some (bounds, after) else none
  | (_, none), '}' :: after => some (bounds, after)
  | _, _ => none

/-- A primitive as a part of a pattern. -/
def ofPrimitive : Primitive → Ast
  | .literal c isByte => .literal c isByte
  | .assertion kind => .assertion kind
  | .shorthand name negated => .set (.shorthand name negated)
  | .property query negated => .set (.property query negated)

/-- One step of reading a pattern. -/
def step (r : Reading) : List Char → Option (Reading × List Char)
  | [] => none
  | '(' :: rest => r.takeGroup rest
  | ')' :: rest => r.closeGroup.map fun next => (next, rest)
  | '|' :: rest =>
    some ({ r with branches := .ofItems r.items.reverse :: r.branches, items := [] }, rest)
  | '[' :: rest => do
    let (item, after) ← takeBracket r.ignoreSpace rest
    return (r.add (.set item), after)
  | '?' :: rest => do return (← r.repeatNewest 0 (some 1), skipReluctant rest)
  | '*' :: rest => do return (← r.repeatNewest 0 none, skipReluctant rest)
  | '+' :: rest => do return (← r.repeatNewest 1 none, skipReluctant rest)
  | '{' :: rest => do
    let ((least, most), after) ← takeBounds r.ignoreSpace rest
    return (← r.repeatNewest least most, skipReluctant (skip r.ignoreSpace after))
  | '\\' :: rest => do
    let (p, after) ← takeEscape r.ignoreSpace rest
    return (r.add (ofPrimitive p), after)
  | '.' :: rest => some (r.add .dot, rest)
  | '^' :: rest => some (r.add (.assertion .lineStart), rest)
  | '$' :: rest => some (r.add (.assertion .lineEnd), rest)
  | c :: rest => some (r.add (.literal c false), rest)

/-- Reads a pattern to its end. -/
def finish (r : Reading) (cs : List Char) : Option Ast :=
  match skip r.ignoreSpace cs with
  | [] => if r.levels.isEmpty then some r.body else none
  | c :: rest =>
    match r.step (c :: rest) with
    | none => none
    | some (next, after) => if after.length < cs.length then next.finish after else none
termination_by cs.length

end Reading

/-- The tree of a pattern: none when the text is no pattern. -/
def Ast.parse? (text : List Char) : Option Ast := do
  let ast ← Reading.start.finish text
  if ast.depth ≤ maxDepth then some ast else none

end Responder.Pattern
