/-
# Responder.Url.Domain -- domain names in ASCII

An international domain name is mapped character by character, brought into
composed normal form, and cut into labels at its points.  A label that is not
ASCII is then written in its ASCII encoding, and a label that claims to be so
encoded must decode to a label that could have been written directly.  Joiners
and characters that run from right to left must stand where they do not
mislead, and characters that would confuse the parts of a URL are refused.
-/
import Responder.Text.Normal
import Responder.Url.Direction
import Responder.Url.DomainTable
import Responder.Url.Joiner
import Responder.Url.Punycode

namespace Responder.Url.Domain

set_option autoImplicit false

open Text (Ranges)

/-- The code points that stay as they are. -/
def validRanges : Ranges := Text.tableRanges validInDomain

/-- The code points that are left out. -/
def ignoredRanges : Ranges := Text.tableRanges ignoredInDomain

/-- The code points that others take the place of. -/
def mappings : List ((Nat × Nat) × List Nat) := Text.tableEntries mappedInDomain

/-- The combining marks. -/
def marks : Ranges := Text.tableRanges marksInDomain

/-- What a code point of a domain name becomes: none when it may not stand there. -/
def mapChar (n : Nat) : Option (List Nat) :=
  if n < 128 then some [if 65 ≤ n ∧ n ≤ 90 then n + 32 else n]
  else if validRanges.contains n then some [n]
  else if ignoredRanges.contains n then some []
  else
    (mappings.find? fun entry => entry.1.1 ≤ n && n ≤ entry.1.2).map fun entry =>
      match entry.2 with
      | [m] => [m + (n - entry.1.1)]
      | ms => ms

/-- Whether a label in Unicode may stand in a domain name. -/
def isValidLabel (label : List Nat) : Bool :=
  !label.head?.any marks.contains && label.all (fun n => n < 128 || validRanges.contains n) &&
    joinersFit [] label && Text.composed label == label

/-- The mark of an encoded label. -/
def encodedMark : List Nat := [120, 110, 45, 45]

/-- A label in Unicode and in ASCII: none when it may not stand in a domain name. -/
def label? (label : List Nat) : Option (List Nat × List Char) :=
  let cs := label.map Char.ofNat
  if encodedMark.isPrefixOf label then do
    let decoded ← Punycode.decode? (cs.drop 4)
    if decoded.all (· < 128) || !isValidLabel decoded then none else some (decoded, cs)
  else if label.all (· < 128) then some (label, cs)
  else if isValidLabel label then
    some (label, 'x' :: 'n' :: '-' :: '-' :: Punycode.encode label)
  else none

/-- Whether a character may not stand in the ASCII form of a domain name. -/
def isForbidden (c : Char) : Bool :=
  c.toNat ≤ 0x20 || c.toNat == 0x7F || "%#/:<>?@[\\]^|".toList.contains c

/-- A domain name in ASCII: none when it is no domain name. -/
def toAscii? (cs : List Char) : Option (List Char) := do
  let mapped ← cs.mapM fun c => mapChar c.toNat
  let labels ← ((Text.composed mapped.flatten).splitOn 46).mapM label?
  let ascii := List.intercalate ['.'] (labels.map (·.2))
  if ascii.any isForbidden || !directionsFit (labels.map (·.1)) then none else some ascii

end Responder.Url.Domain
