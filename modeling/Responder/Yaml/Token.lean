/-
# Responder.Yaml.Token -- the words of YAML text

`Token.scan?` splits a text into words and makes its layout visible: blocks
begin and end by indentation, so they get words of their own.  A key needs no
mark before it; only the colon after a text or bracket shows that it was one.
So the place of each word that may be a key is remembered until the line ends,
and a colon puts the missing words there.
-/
import Responder.Yaml.Scalar

namespace Responder.Yaml

set_option autoImplicit false

/-- The words of YAML text. -/
inductive Token where
  /-- The version of YAML that a text asks for. -/
  | version (major minor : List Char)
  /-- A short name for the beginnings of tags. -/
  | handle (name start : List Char)
  | documentStart
  | documentEnd
  | blockSequence
  | blockMapping
  | blockEnd
  | openSequence
  | closeSequence
  | openMapping
  | closeMapping
  | comma
  | dash
  | key
  | value
  | anchor (name : List Char)
  | alias (name : List Char)
  | tag (handle suffix : List Char)
  | scalar (text : List Char) (plain : Bool)
  deriving DecidableEq

/-- A word that may turn out to be a key. -/
structure Candidate where
  /-- The number of words before it. -/
  place : Nat
  line : Nat
  column : Nat
  /-- Nothing but a key may stand there. -/
  required : Bool

/-- What has been read of a text. -/
structure Scan where
  cursor : Cursor
  /-- The words so far, last first. -/
  words : List Token
  /-- The columns of open blocks, innermost first. -/
  indents : List Nat
  /-- The word that may be a key inside the innermost brackets. -/
  candidate : Option Candidate
  /-- The same for the brackets around them, and for the text outside of all. -/
  outer : List (Option Candidate)
  /-- Whether the next word may be a key. -/
  keyAllowed : Bool

namespace Scan

/-- Whether the cursor is inside brackets. -/
def inside (s : Scan) : Bool := !s.outer.isEmpty

/-- The least column for lines that go on a text of the innermost block. -/
def least (s : Scan) : Nat :=
  match s.indents with
  | [] => 0
  | indent :: _ => indent + 1

/-- Adds a word. -/
def push (s : Scan) (word : Token) : Scan := { s with words := word :: s.words }

/-- Puts a word at an earlier place. -/
def insert (s : Scan) (place : Nat) (word : Token) : Scan :=
  let after := s.words.length - place
  { s with words := s.words.take after ++ word :: s.words.drop after }

/-! ## Blocks and keys -/

/-- Opens a block at a column, unless one is open there already. -/
def openBlock (s : Scan) (column place : Nat) (word : Token) : Scan :=
  if !s.inside && s.indents.head?.all (· < column) then
    { s.insert place word with indents := column :: s.indents }
  else s

/-- Closes blocks, innermost first, as long as their columns say so. -/
def closeBlocks (s : Scan) (closes : Nat → Bool) : Scan :=
  if s.inside then s
  else
    let closed := s.indents.takeWhile closes
    { s with
      indents := s.indents.drop closed.length
      words := List.replicate closed.length Token.blockEnd ++ s.words }

/-- Gives up a candidate: none if a key is required there. -/
def drop? : Option Candidate → Option (Option Candidate)
  | some c => if c.required then none else some none
  | none => some none

/-- Gives up the innermost candidate. -/
def dropCandidate? (s : Scan) : Option Scan :=
  (drop? s.candidate).map fun c => { s with candidate := c }

/-- Gives up candidates on earlier lines or too far behind. -/
def dropStale? (s : Scan) : Option Scan := do
  let fresh (c : Candidate) : Bool :=
    c.line == s.cursor.line && s.cursor.column ≤ c.column + 1024
  let check (c : Option Candidate) : Option (Option Candidate) :=
    if c.all fresh then some c else drop? c
  return { s with candidate := ← check s.candidate, outer := ← s.outer.mapM check }

/-- Remembers the next word as a candidate, if it may be a key. -/
def saveCandidate? (s : Scan) : Option Scan :=
  if s.keyAllowed then do
    let required := !s.inside && s.indents.head? == some s.cursor.column
    return { ← s.dropCandidate? with
      candidate := some ⟨s.words.length, s.cursor.line, s.cursor.column, required⟩ }
  else some s

/-- Passes characters and adds the word that they are. -/
def take (s : Scan) (count : Nat) (word : Token) : Scan :=
  { s.push word with cursor := s.cursor.skip count }

/-! ## Between words -/

/-- Passes blanks, line breaks and comments.  Outside of brackets a new line may
begin with a key, and tabs may not stand where a key may. -/
def skipBlanks (inside : Bool) : Bool → Bool → Nat → Nat → List Char → Bool × Cursor
  | keyAllowed, _, line, column, [] => (keyAllowed, ⟨[], line, column⟩)
  | keyAllowed, comment, line, column, c :: rest =>
    if isBreak c then skipBlanks inside (keyAllowed || !inside) false (line + 1) 0 rest
    else if comment || c == ' ' || c == '#' || (c == '\t' && (inside || !keyAllowed)) ||
        (c == '\ufeff' && column == 0) then
      skipBlanks inside keyAllowed (comment || c == '#') line (column + 1) rest
    else (keyAllowed, ⟨c :: rest, line, column⟩)

/-! ## Directives -/

/-- The decimal digits of a part of a version number. -/
def versionPart? (s : Cursor) : Option (List Char × Cursor) :=
  let (digits, after) := s.span Char.isDigit
  if digits = [] ∨ 9 < digits.length then none else some (digits.dropWhile (· == '0'), after)

/-- Characters of a tag that need not be encoded. -/
def isTagChar (verbatim : Bool) (c : Char) : Bool :=
  isNameChar c || ";/?:@&=+$.%!~*'()".toList.contains c ||
    (verbatim && (c == ',' || c == '[' || c == ']'))

/-- Whether two hexadecimal digits follow each percent sign. -/
def percentsFit : List Char → Bool
  | '%' :: rest => (hexChar? 2 rest).isSome && percentsFit rest
  | _ :: rest => percentsFit rest
  | [] => true

/-- Reads a part of a tag. -/
def tagPart? (s : Cursor) (verbatim : Bool) : Option (List Char × Cursor) :=
  let (chars, after) := s.span (isTagChar verbatim)
  if percentsFit chars then some (chars, after) else none

/-- Reads the handle of a tag: a name between exclamation marks, of which the
last may be missing. -/
def handle? (s : Cursor) : Option (List Char × Cursor) :=
  if s.rest.head? == some '!' then
    let (name, after) := s.next.span isNameChar
    if after.rest.head? == some '!' then some ('!' :: (name ++ ['!']), after.next)
    else some ('!' :: name, after)
  else none

/-- Reads a directive after its percent sign. -/
def directive? (s : Cursor) : Option (Token × Cursor) := do
  let (name, s) := s.span isNameChar
  if !atGap s.rest then none
  else
    let s := s.dropWhile isSpace
    match String.ofList name with
    | "YAML" =>
      let (major, s) ← versionPart? s
      if s.rest.head? == some '.' then
        let (minor, s) ← versionPart? s.next
        return (.version major minor, s)
      else none
    | "TAG" =>
      let (name, s) ← handle? s
      if name.length > 1 && name.getLast? != some '!' then none
      else if !s.rest.head?.any isSpace then none
      else
        let (start, s) ← tagPart? (s.dropWhile isSpace) true
        if start = [] || !atGap s.rest then none else return (.handle name start, s)
    | _ => none

/-! ## Properties -/

/-- Reads the name of an anchor or alias. -/
def name? (s : Cursor) : Option (List Char × Cursor) :=
  let (name, after) := s.span isNameChar
  if name ≠ [] && (atGap after.rest || after.rest.head?.any fun c => "?:,]\x7d%@\x60".toList.contains c)
  then some (name, after)
  else none

/-- Reads a tag: verbatim between angle brackets, with a handle, or with a lone
exclamation mark. -/
def tagWord? (inside : Bool) (s : Cursor) : Option (Token × Cursor) := do
  let (word, s) ←
    if s.next.rest.head? == some '<' then do
      let (chars, s) ← tagPart? (s.skip 2) true
      if chars = [] || s.rest.head? != some '>' then none
      else some (Token.tag [] chars, s.next)
    else do
      let (name, s) ← handle? s
      if name.length > 1 && name.getLast? == some '!' then
        let (chars, s) ← tagPart? s false
        if chars = [] then none else some (Token.tag name chars, s)
      else
        let (chars, s) ← tagPart? s false
        match name.drop 1 ++ chars with
        | [] => some (Token.tag [] ['!'], s)
        | suffix => some (Token.tag ['!'] suffix, s)
  if atGap s.rest || (inside && s.rest.head? == some ',') then some (word, s) else none

/-! ## Words -/

/-- Reads a bound of a document. -/
def bound? (s : Scan) (word : Token) : Option Scan := do
  let s ← (s.closeBlocks fun _ => true).dropCandidate?
  return { s.take 3 word with keyAllowed := false }

/-- Reads a directive. -/
def directiveLine? (s : Scan) : Option Scan := do
  let s ← (s.closeBlocks fun _ => true).dropCandidate?
  let (word, cursor) ← directive? s.cursor.next
  return { s.push word with cursor := ← cursor.lineEnd?, keyAllowed := false }

/-- Reads an opening bracket. -/
def openBracket? (s : Scan) (word : Token) : Option Scan := do
  let s ← s.saveCandidate?
  return { s.take 1 word with
    candidate := none, outer := s.candidate :: s.outer, keyAllowed := true }

/-- Reads a closing bracket. -/
def closeBracket? (s : Scan) (word : Token) : Option Scan := do
  let s ← s.dropCandidate?
  let s := { s.take 1 word with keyAllowed := false }
  match s.outer with
  | [] => return s
  | candidate :: outer => return { s with candidate, outer }

/-- Reads a comma inside brackets. -/
def comma? (s : Scan) : Option Scan := do
  return { (← s.dropCandidate?).take 1 .comma with keyAllowed := true }

/-- Reads a mark that begins an item, a key or a value and may open a block. -/
def mark? (s : Scan) (block word : Token) : Option Scan :=
  if s.inside then some (s.take 1 word)
  else if s.keyAllowed then some ((s.openBlock s.cursor.column s.words.length block).take 1 word)
  else none

/-- Reads a dash. -/
def dash? (s : Scan) : Option Scan := do
  return { ← (← s.mark? .blockSequence .dash).dropCandidate? with keyAllowed := true }

/-- Reads a question mark. -/
def questionMark? (s : Scan) : Option Scan := do
  return { ← (← s.mark? .blockMapping .key).dropCandidate? with keyAllowed := !s.inside }

/-- Reads a colon: the candidate before it, if there is one, is a key. -/
def colon? (s : Scan) : Option Scan := do
  match s.candidate with
  | some c =>
    let s := (s.insert c.place .key).openBlock c.column c.place .blockMapping
    return { s.take 1 .value with candidate := none, keyAllowed := false }
  | none => return { ← s.mark? .blockMapping .value with keyAllowed := !s.inside }

/-- Reads the name after an ampersand or asterisk. -/
def named? (s : Scan) (word : List Char → Token) : Option Scan := do
  let s ← s.saveCandidate?
  let (name, cursor) ← name? s.cursor.next
  return { s.push (word name) with cursor, keyAllowed := false }

/-- Reads a tag. -/
def tag? (s : Scan) : Option Scan := do
  let s ← s.saveCandidate?
  let (word, cursor) ← tagWord? s.inside s.cursor
  return { s.push word with cursor, keyAllowed := false }

/-- Reads a text in block form. -/
def block? (s : Scan) (folded : Bool) : Option Scan := do
  let s ← s.dropCandidate?
  let (text, cursor) ← blockText? folded s.least s.cursor.next
  return { s.push (.scalar text false) with cursor, keyAllowed := true }

/-- Reads a text in quotes. -/
def quoted? (s : Scan) (quote : Char) : Option Scan := do
  let s ← s.saveCandidate?
  let start := s.cursor.next
  let (read, cursor) ← quotedFrom quote [] .nothing start.line start.column start.rest
  return { s.push (.scalar read.reverse false) with cursor, keyAllowed := false }

/-- Whether a plain text may begin with this character before these. -/
def beginsPlain (inside : Bool) (c : Char) (rest : List Char) : Bool :=
  if isGap c then false
  else if c == '-' then !rest.head?.any isSpace
  else if c == '?' || c == ':' then !inside && !atGap rest
  else !(isBracketOrComma c || "#&*!|>'\"%@\x60".toList.contains c)

/-- Reads a text in plain form. -/
def plain? (s : Scan) : Option Scan := do
  let s ← s.saveCandidate?
  let (read, gap, cursor) ←
    plainFrom s.inside s.least [] .nothing s.cursor.line s.cursor.column s.cursor.rest
  return { s.push (.scalar read.reverse true) with cursor, keyAllowed := gap.hasBreak }

/-- Reads the word that begins with `c`. -/
def word? (s : Scan) (c : Char) (rest : List Char) : Option Scan :=
  if c == '%' && s.cursor.column == 0 then s.directiveLine?
  else if s.cursor.atMark '-' then s.bound? .documentStart
  else if s.cursor.atMark '.' then s.bound? .documentEnd
  else if c == '[' then s.openBracket? .openSequence
  else if c == '\x7b' then s.openBracket? .openMapping
  else if c == ']' then s.closeBracket? .closeSequence
  else if c == '\x7d' then s.closeBracket? .closeMapping
  else if c == ',' then s.comma?
  else if c == '-' && atGap rest then s.dash?
  else if c == '?' && (s.inside || atGap rest) then s.questionMark?
  else if c == ':' && (s.inside || atGap rest) then s.colon?
  else if c == '*' then s.named? .alias
  else if c == '&' then s.named? .anchor
  else if c == '!' then s.tag?
  else if c == '|' && !s.inside then s.block? false
  else if c == '>' && !s.inside then s.block? true
  else if c == '\'' || c == '"' then s.quoted? c
  else if beginsPlain s.inside c rest then s.plain?
  else none

/-- Reads the next word, or to the end of the text. -/
def next? (s : Scan) : Option Scan := do
  let (keyAllowed, cursor) :=
    skipBlanks s.inside s.keyAllowed false s.cursor.line s.cursor.column s.cursor.rest
  let s ← { s with keyAllowed, cursor : Scan }.dropStale?
  let s := s.closeBlocks (s.cursor.column < ·)
  match s.cursor.rest with
  | [] => (s.closeBlocks fun _ => true).dropCandidate?
  | c :: rest => s.word? c rest

/-- Reads at most `fuel` words, to the end of the text. -/
def finish? : Nat → Scan → Option Scan
  | 0, _ => none
  | fuel + 1, s => do
    let after ← s.next?
    if after.cursor.rest = [] ∧ s.cursor.rest = [] then some after else finish? fuel after

end Scan

/-- The words of a text: none when it has no words. -/
def Token.scan? (text : List Char) : Option (List Token) :=
  let start : Scan := ⟨.start text, [], [], none, [], true⟩
  (start.finish? (text.length + 2)).map (·.words.reverse)

end Responder.Yaml
