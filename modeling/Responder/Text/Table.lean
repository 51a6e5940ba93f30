/-
# Responder.Text.Table -- reading tables of characters

Large tables are kept as text: words between spaces and line breaks, code points
in hexadecimal, ranges with a hyphen, and what belongs to a range after an
equals sign.
-/
import Responder.Text.Ranges

namespace Responder.Text

set_option autoImplicit false

/-- The number that hexadecimal digits denote. -/
def hexNumber (digits : List Char) : Nat :=
  digits.foldl (fun n c => 16 * n + (if c.toNat < 58 then c.toNat - 48 else c.toNat % 32 + 9)) 0

/-- The words of a table, without the spaces and line breaks between them. -/
def tableWords (table : String) : List (List Char) :=
  ((table.toList.splitOn '\n').flatMap (·.splitOn ' ')).filter (· ≠ [])

/-- The range that a word denotes. -/
def tableRange (word : List Char) : Nat × Nat :=
  match word.splitOn '-' with
  | [low, high] => (hexNumber low, hexNumber high)
  | _ => (hexNumber word, hexNumber word)

/-- The ranges that a table lists. -/
def tableRanges (table : String) : Ranges := (tableWords table).map tableRange

/-- The ranges that a table lists, with the numbers that belong to each. -/
def tableEntries (table : String) : List ((Nat × Nat) × List Nat) :=
  (tableWords table).map fun word =>
    match word.splitOn '=' with
    | [range, numbers] => (tableRange range, (numbers.splitOn '.').map hexNumber)
    | _ => (tableRange word, [])

end Responder.Text
