/-
# Responder.Json.Printer -- compact JSON text

Values are written without blanks, and objects in their order of keys.  Strings
escape only the quote, the backslash and the control characters below U+0020.
Floats always show that they are floats: a decimal point or an exponent.
-/
import Responder.Json.Basic
import Responder.Numeral.Layout

namespace Responder.Json

set_option autoImplicit false

/-- Floats are positional for exponents from -5 to 15, whole ones with `.0`;
exponents are not padded. -/
def floatLayout : Numeral.Layout := ⟨-5, 16, true, 1⟩

/-- A number's text. -/
def Number.chars : Number → List Char
  | .integer i _ => Numeral.intText i
  | .float x => floatLayout.text x.shortest

/-- The lower-case hexadecimal digit of a number below 16. -/
def hexDigit (n : Nat) : Char := if n < 10 then Char.ofNat (48 + n) else Char.ofNat (87 + n)

/-- A character as it stands in a string. -/
def escapeChar (c : Char) : List Char :=
  if c = '"' then ['\\', '"']
  else if c = '\\' then ['\\', '\\']
  else if c = '\x08' then ['\\', 'b']
  else if c = '\x0c' then ['\\', 'f']
  else if c = '\n' then ['\\', 'n']
  else if c = '\r' then ['\\', 'r']
  else if c = '\t' then ['\\', 't']
  else if c.toNat < 0x20 then
    ['\\', 'u', '0', '0', hexDigit (c.toNat / 16), hexDigit (c.toNat % 16)]
  else [c]

/-- A quoted string. -/
def stringChars (s : String) : List Char := '"' :: (s.toList.flatMap escapeChar ++ ['"'])

mutual

/-- The compact text of a value. -/
def chars : Json → List Char
  | .null => ['n', 'u', 'l', 'l']
  | .bool true => ['t', 'r', 'u', 'e']
  | .bool false => ['f', 'a', 'l', 's', 'e']
  | .number n => n.chars
  | .string s => stringChars s
  | .array items => '[' :: (itemChars items ++ [']'])
  | .object members => '\x7b' :: (memberChars members ++ ['\x7d'])

/-- Items with commas between them. -/
def itemChars : List Json → List Char
  | [] => []
  | item :: rest => chars item ++ moreItemChars rest

/-- Items with a comma before each. -/
def moreItemChars : List Json → List Char
  | [] => []
  | item :: rest => ',' :: (chars item ++ moreItemChars rest)

/-- Members with commas between them. -/
def memberChars : List (String × Json) → List Char
  | [] => []
  | (key, value) :: rest => stringChars key ++ ':' :: (chars value ++ moreMemberChars rest)

/-- Members with a comma before each. -/
def moreMemberChars : List (String × Json) → List Char
  | [] => []
  | (key, value) :: rest =>
    ',' :: (stringChars key ++ ':' :: (chars value ++ moreMemberChars rest))

end

/-- The compact text of a value. -/
def compact (value : Json) : String := String.ofList value.chars

end Responder.Json
