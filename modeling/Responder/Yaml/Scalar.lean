/-
# Responder.Yaml.Scalar -- texts in plain, quoted and block form

A text may go over several lines.  In plain and quoted form a line break
becomes a space, and each blank line after it a line feed; in block form lines
are kept, or folded where they are not indented further.
-/
import Responder.Yaml.Cursor

namespace Responder.Yaml

set_option autoImplicit false

/-! ## Gaps inside a text -/

/-- What has been passed since the last character of a text. -/
inductive Gap where
  | nothing
  | spaces (chars : List Char)
  /-- A line break, unless it was escaped, and the line breaks after it. -/
  | breaks (first : Option Char) (more : List Char)

namespace Gap

/-- The gap with one character more; spaces around line breaks do not count. -/
def add (gap : Gap) (c : Char) : Gap :=
  match gap with
  | .breaks first more => if isBreak c then .breaks first (more ++ [c]) else gap
  | .spaces chars => if isBreak c then .breaks (some c) [] else .spaces (chars ++ [c])
  | .nothing => if isBreak c then .breaks (some c) [] else .spaces [c]

/-- What a gap contributes to the text. -/
def text : Gap → List Char
  | .nothing => []
  | .spaces chars => chars
  | .breaks (some '\n') [] => [' ']
  | .breaks (some '\n') more => more
  | .breaks first more => first.toList ++ more

/-- Whether there is a gap. -/
def isSome : Gap → Bool
  | .nothing => false
  | _ => true

/-- Whether a gap goes over the end of a line. -/
def hasBreak : Gap → Bool
  | .breaks .. => true
  | _ => false

end Gap

/-! ## Plain form -/

/-- Characters that end a plain text inside brackets. -/
def isBracketOrComma (c : Char) : Bool := ",[]\x7b\x7d".toList.contains c

/-- Reads a plain text on from what has been read, last character first: it ends
before a comment, a colon before a gap and, on a new line, before the column
`least`; inside brackets also before a bracket or comma.  Gives the gap at its
end too. -/
def plainFrom (inside : Bool) (least : Nat) :
    List Char → Gap → Nat → Nat → List Char → Option (List Char × Gap × Cursor)
  | read, gap, line, column, [] => some (read, gap, ⟨[], line, column⟩)
  | read, gap, line, column, c :: rest =>
    let here : Cursor := ⟨c :: rest, line, column⟩
    if isBreak c then plainFrom inside least read (gap.add c) (line + 1) 0 rest
    else if isSpace c then
      if c == '\t' && gap.hasBreak && column < least then none
      else plainFrom inside least read (gap.add c) line (column + 1) rest
    else if here.atBound || (gap.isSome && c == '#') ||
        (!inside && gap.hasBreak && column < least) then
      some (read, gap, here)
    else if inside && c == ':' && rest.head?.any (fun d => d == '?' || isBracketOrComma d) then
      none
    else if (c == ':' && atGap rest) || (inside && isBracketOrComma c) then
      some (read, gap, here)
    else plainFrom inside least (c :: (gap.text.reverse ++ read)) .nothing line (column + 1) rest

/-! ## Quoted form -/

/-- The character of an escape of one letter. -/
def escapedChar? : Char → Option Char
  | '0' => some '\x00'
  | 'a' => some '\x07'
  | 'b' => some '\x08'
  | 't' | '\t' => some '\t'
  | 'n' => some '\n'
  | 'v' => some '\x0b'
  | 'f' => some '\x0c'
  | 'r' => some '\r'
  | 'e' => some '\x1b'
  | ' ' => some ' '
  | '"' => some '"'
  | '/' => some '/'
  | '\\' => some '\\'
  | 'N' => some '\u0085'
  | '_' => some '\u00a0'
  | 'L' => some '\u2028'
  | 'P' => some '\u2029'
  | _ => none

/-- The value of a hexadecimal digit. -/
def hexValue? (c : Char) : Option Nat :=
  if c.isDigit then some (c.toNat - 48)
  else if 'a' ≤ c ∧ c ≤ 'f' then some (c.toNat - 87)
  else if 'A' ≤ c ∧ c ≤ 'F' then some (c.toNat - 55)
  else none

/-- The character of `count` hexadecimal digits. -/
def hexChar? (count : Nat) (text : List Char) : Option Char := do
  let digits := text.take count
  if digits.length < count then none
  else
    let n ← digits.foldlM (fun n c => (hexValue? c).map (16 * n + ·)) 0
    if n.isValidChar then some (Char.ofNat n) else none

/-- The character of an escape, and the length of the escape after its backslash. -/
def escape? : List Char → Option (Char × Nat)
  | 'x' :: rest => (hexChar? 2 rest).map (·, 3)
  | 'u' :: rest => (hexChar? 4 rest).map (·, 5)
  | 'U' :: rest => (hexChar? 8 rest).map (·, 9)
  | c :: _ => (escapedChar? c).map (·, 1)
  | [] => none

/-- Reads a quoted text on from what has been read, last character first, up to
its closing quote.  In single quotes only a doubled quote is special; in double
quotes escapes are. -/
def quotedFrom (quote : Char) (read : List Char) (gap : Gap) (line column : Nat)
    (text : List Char) : Option (List Char × Cursor) :=
  match text with
  | [] => none
  | c :: rest =>
    if isBreak c then quotedFrom quote read (gap.add c) (line + 1) 0 rest
    else if isSpace c then quotedFrom quote read (gap.add c) line (column + 1) rest
    else if (Cursor.mk (c :: rest) line column).atBound then none
    else
      let read := gap.text.reverse ++ read
      if c == quote then
        match rest with
        | d :: more =>
          if quote == '\'' && d == '\'' then
            quotedFrom quote ('\'' :: read) .nothing line (column + 2) more
          else some (read, ⟨rest, line, column + 1⟩)
        | [] => some (read, ⟨rest, line, column + 1⟩)
      else if quote == '"' && c == '\\' then
        match rest with
        | [] => none
        | d :: more =>
          if isBreak d then quotedFrom quote read (.breaks none []) (line + 1) 0 more
          else
            match escape? (d :: more) with
            | some (e, count) =>
              quotedFrom quote (e :: read) .nothing line (column + 1 + count)
                (more.drop (count - 1))
            | none => none
      else quotedFrom quote (c :: read) .nothing line (column + 1) rest
termination_by text.length
decreasing_by all_goals simp_all <;> omega

/-! ## Block form -/

/-- What becomes of the line breaks at the end of a block text. -/
inductive Chomp where
  /-- None is kept. -/
  | strip
  /-- The first is kept. -/
  | clip
  /-- All are kept. -/
  | keep
  deriving DecidableEq

/-- The chomping that an indicator asks for. -/
def Chomp.ofChar? : Char → Option Chomp
  | '-' => some .strip
  | '+' => some .keep
  | _ => none

/-- The indentation that an indicator asks for. -/
def indentDigit? (c : Char) : Option Nat :=
  if c.isDigit && c != '0' then some (c.toNat - 48) else none

/-- Reads the indicators after the first of a block text, in either order: how
to chomp it and how far it is indented. -/
def blockHeader? (s : Cursor) : Option (Chomp × Option Nat × Cursor) :=
  match s.rest with
  | a :: b :: _ =>
    match Chomp.ofChar? a, indentDigit? a with
    | some chomp, _ =>
      if b == '0' then none
      else
        match indentDigit? b with
        | some n => some (chomp, some n, s.skip 2)
        | none => some (chomp, none, s.skip 1)
    | none, some n =>
      match Chomp.ofChar? b with
      | some chomp => some (chomp, some n, s.skip 2)
      | none => some (.clip, some n, s.skip 1)
    | none, none => if a == '0' then none else some (.clip, none, s)
  | [a] =>
    match Chomp.ofChar? a, indentDigit? a with
    | some chomp, _ => some (chomp, none, s.skip 1)
    | none, some n => some (.clip, some n, s.skip 1)
    | none, none => if a == '0' then none else some (.clip, none, s)
  | [] => some (.clip, none, s)

/-- The line breaks before the next line with content, and the cursor there: after
`limit` spaces if there is a limit, else after all.  `widest` is the furthest
column so far; a tab may not stand for indentation. -/
def blankLines (limit : Option Nat) :
    List Char → Nat → Nat → Nat → List Char → Option (List Char × Nat × Cursor)
  | breaks, widest, line, column, [] => some (breaks, max widest column, ⟨[], line, column⟩)
  | breaks, widest, line, column, c :: rest =>
    let below := limit.all (column < ·)
    if c == ' ' && below then blankLines limit breaks widest line (column + 1) rest
    else if c == '\t' && below then none
    else if isBreak c then blankLines limit (breaks ++ [c]) (max widest column) (line + 1) 0 rest
    else some (breaks, max widest column, ⟨c :: rest, line, column⟩)

/-- What has been read of a block text. -/
structure Block where
  /-- The text so far, last character first. -/
  read : List Char
  /-- The break after the last line with content. -/
  ended : Option Char
  /-- The line breaks after that. -/
  breaks : List Char
  /-- Whether the last line with content is indented further. -/
  further : Bool
  /-- Whether a line with content is being read. -/
  inLine : Bool

/-- Begins a line with content, of which the first character is `c`: the break
before it is folded between lines that are not indented further. -/
def Block.beginLine (folded : Bool) (b : Block) (c : Char) : Block :=
  let joint :=
    if folded && b.ended == some '\n' && !b.further && !isSpace c then
      if b.breaks = [] then [' '] else b.breaks
    else b.ended.toList ++ b.breaks
  { read := c :: (joint.reverse ++ b.read), ended := none, breaks := [], further := isSpace c,
    inLine := true }

/-- Reads the lines of a block text that is indented to column `indent`. -/
def blockFrom (folded : Bool) (indent : Nat) :
    Block → Nat → Nat → List Char → Option (Block × Cursor)
  | b, line, column, [] => some (b, ⟨[], line, column⟩)
  | b, line, column, c :: rest =>
    if b.inLine then
      if isBreak c then
        blockFrom folded indent { b with ended := some c, inLine := false } (line + 1) 0 rest
      else blockFrom folded indent { b with read := c :: b.read } line (column + 1) rest
    else if c == ' ' && column < indent then blockFrom folded indent b line (column + 1) rest
    else if c == '\t' && column < indent then none
    else if isBreak c then
      blockFrom folded indent { b with breaks := b.breaks ++ [c] } (line + 1) 0 rest
    else if column == indent then blockFrom folded indent (b.beginLine folded c) line (column + 1) rest
    else some (b, ⟨c :: rest, line, column⟩)

/-- The text of a block that has been read to its end. -/
def Block.text (b : Block) (chomp : Chomp) : List Char :=
  b.read.reverse ++
    match chomp with
    | .strip => []
    | .clip => b.ended.toList
    | .keep => b.ended.toList ++ b.breaks

/-- Reads a block text after its first indicator; `least` is the least column
that its lines can have. -/
def blockText? (folded : Bool) (least : Nat) (s : Cursor) : Option (List Char × Cursor) := do
  let (chomp, increment, s) ← blockHeader? s
  let s := (← s.lineEnd?).next
  let limit := increment.map (least - 1 + ·)
  let (breaks, widest, s) ← blankLines limit [] 0 s.line s.column s.rest
  let indent := limit.getD (max (max widest least) 1)
  let (b, s) ← blockFrom folded indent ⟨[], none, breaks, false, false⟩ s.line s.column s.rest
  return (b.text chomp, s)

end Responder.Yaml
