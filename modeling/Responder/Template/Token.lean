/-
# Responder.Template.Token -- the pieces of template source

Template source is literal text with actions between double braces.  An action
is a sequence of tokens, or a comment; a minus sign with a space on its inner
side next to a brace asks for the white space of the neighbouring text to be
trimmed.  Every token and every flaw has a place: the number of UTF-8 bytes of
source before it.
-/
import Responder.Json.Basic
import Responder.Text.Quoted

namespace Responder.Template

set_option autoImplicit false

/-- A token of an action. -/
inductive Token where
  /-- The current value. -/
  | dot
  /-- Names stepped through from the current value. -/
  | chain (names : List String)
  /-- A name that stands alone. -/
  | name (text : String)
  | text (value : String)
  | number (value : Json.Number)
  | bool (value : Bool)
  | nil
  | pipe
  | openParen
  | closeParen

/-- A token with its place. -/
structure Placed where
  token : Token
  offset : Nat

/-- The sides of an action on which text is trimmed. -/
structure Trim where
  left : Bool
  right : Bool
  deriving DecidableEq

/-- A piece of source. -/
inductive Segment where
  | text (chars : List Char)
  | action (tokens : List Placed) (offset : Nat) (trim : Trim)
  | comment (trim : Trim)

/-- What can be wrong at a place of template source. -/
inductive Fault where
  | unclosedAction
  | unclosedComment
  | textAfterComment
  | unclosedString
  | unclosedRawString
  | unknownEscape
  | badNumber (text : String)
  | unexpectedChar (c : Char)
  | missingValue
  | strayParen
  | unclosedParen
  | valueInPipe
  | argumentToValue
  deriving DecidableEq

/-- A fault in words. -/
def Fault.message : Fault → String
  | .unclosedAction => "unclosed action"
  | .unclosedComment => "unclosed comment"
  | .textAfterComment => "comment ends before closing delimiter"
  | .unclosedString => "unterminated quoted string"
  | .unclosedRawString => "unterminated raw quoted string"
  | .unknownEscape => "unknown escape sequence in quoted string"
  | .badNumber text => "bad number syntax: " ++ Text.quoted text
  | .unexpectedChar c => "unexpected " ++ Text.quotedChar c ++ " in action"
  | .missingValue => "missing value for command"
  | .strayParen => "unexpected \")\" in operand"
  | .unclosedParen => "unclosed left paren"
  | .valueInPipe => "non-function in pipeline"
  | .argumentToValue => "can't give argument to non-function"

/-- A fault and its place. -/
structure Flaw where
  offset : Nat
  fault : Fault
  deriving DecidableEq

/-- The number of UTF-8 bytes of a text. -/
def byteCount : List Char → Nat
  | [] => 0
  | c :: rest => c.utf8Size + byteCount rest

/-- The number of line breaks in the first `offset` bytes of a text. -/
def breaksBefore : List Char → Nat → Nat
  | [], _ => 0
  | c :: rest, offset =>
    if offset = 0 then 0
    else (if c = '\n' then 1 else 0) + breaksBefore rest (offset - c.utf8Size)

/-- The line of a place, counted from 1. -/
def lineAt (source : List Char) (offset : Nat) : Nat := breaksBefore source offset + 1

end Responder.Template
