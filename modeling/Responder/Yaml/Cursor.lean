/-
# Responder.Yaml.Cursor -- places in YAML text

A text is prepared before it is read: forbidden characters make it no YAML at
all, and the common line breaks become line feeds.  After that a line break is
one character, and a cursor knows the line and column where the rest begins.
-/

namespace Responder.Yaml

set_option autoImplicit false

/-! ## Characters -/

/-- Whether a character may stand in a text. -/
def isAllowed (c : Char) : Bool :=
  let n := c.toNat
  n == 9 || n == 10 || n == 13 || (0x20 ≤ n && n ≤ 0x7E) || n == 0x85 ||
    (0xA0 ≤ n && n ≤ 0xFFFD) || 0x10000 ≤ n

/-- A text with one character for each line break. -/
def joinBreaks : List Char → List Char
  | '\r' :: '\n' :: rest => '\n' :: joinBreaks rest
  | c :: rest => (if c == '\r' || c == '\u0085' then '\n' else c) :: joinBreaks rest
  | [] => []

/-- A text as it is read: none if a character is forbidden. -/
def prepare? (text : List Char) : Option (List Char) :=
  if text.all isAllowed then some (joinBreaks text) else none

/-- Whether a character ends a line: a line feed or a separator of lines or paragraphs. -/
def isBreak (c : Char) : Bool := c == '\n' || c == '\u2028' || c == '\u2029'

/-- A space or tab. -/
def isSpace (c : Char) : Bool := c == ' ' || c == '\t'

/-- A character between words. -/
def isGap (c : Char) : Bool := isSpace c || isBreak c

/-- Whether no word goes on at the start of a text. -/
def atGap (text : List Char) : Bool := text.head?.all isGap

/-- A character of a name. -/
def isNameChar (c : Char) : Bool := c.isAlphanum || c == '_' || c == '-'

/-! ## Cursors -/

/-- The rest of a text, and the line and column of its first character. -/
structure Cursor where
  rest : List Char
  line : Nat
  column : Nat

namespace Cursor

/-- The cursor at the start of a text. -/
def start (text : List Char) : Cursor := ⟨text, 0, 0⟩

/-- The cursor one character on. -/
def next (s : Cursor) : Cursor :=
  match s.rest with
  | [] => s
  | c :: rest => if isBreak c then ⟨rest, s.line + 1, 0⟩ else ⟨rest, s.line, s.column + 1⟩

/-- The cursor some characters on. -/
def skip (s : Cursor) (count : Nat) : Cursor := (s.rest.take count).foldl (fun s _ => s.next) s

/-- The characters that fit, and the cursor after them. -/
def span (s : Cursor) (fits : Char → Bool) : List Char × Cursor :=
  let taken := s.rest.takeWhile fits
  (taken, s.skip taken.length)

/-- The cursor after the characters that fit. -/
def dropWhile (s : Cursor) (fits : Char → Bool) : Cursor := (s.span fits).2

/-- Whether the text goes on with a mark of three characters that bounds a
document: it must stand at the start of a line and before a gap. -/
def atMark (s : Cursor) (mark : Char) : Bool :=
  s.column == 0 && s.rest.take 3 == [mark, mark, mark] && atGap (s.rest.drop 3)

/-- Whether the text goes on with the bound of a document. -/
def atBound (s : Cursor) : Bool := s.atMark '-' || s.atMark '.'

/-- The cursor at the end of a line that holds nothing but blanks and a comment. -/
def lineEnd? (s : Cursor) : Option Cursor :=
  let s := s.dropWhile isSpace
  let s := if s.rest.head? == some '#' then s.dropWhile fun c => !isBreak c else s
  if s.rest.head?.all isBreak then some s else none

end Cursor

end Responder.Yaml
