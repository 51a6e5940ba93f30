/-
# Responder.Json.Parser -- reading JSON text

A text is one value between blanks.  The words of the text (`Token.scan`) drive
a machine that remembers the containers still open, innermost first; a value
that is complete goes into the innermost one, or is the result when none is
open.  At most `maxDepth` containers may be open at once.
-/
import Responder.Json.Token

namespace Responder.Json

set_option autoImplicit false

/-- The greatest number of containers inside one another. -/
def maxDepth : Nat := 127

/-- A container that is still open: the items read so far, newest first, or the
members read so far and the key whose value comes next. -/
inductive Frame where
  | array (items : List Json)
  | object (members : Members) (key : String)

/-- What may come next, with the open containers around it, innermost first. -/
inductive Reader where
  /-- A value. -/
  | value (outer : List Frame)
  /-- The first item of an array, or its end. -/
  | firstItem (outer : List Frame)
  /-- A comma or the end of an array. -/
  | nextItem (items : List Json) (outer : List Frame)
  /-- The first key of an object, or its end. -/
  | firstKey (outer : List Frame)
  /-- A key, after a comma. -/
  | key (members : Members) (outer : List Frame)
  /-- The colon after a key. -/
  | colon (members : Members) (key : String) (outer : List Frame)
  /-- A comma or the end of an object. -/
  | nextKey (members : Members) (outer : List Frame)
  /-- Nothing: the value is complete. -/
  | finished (value : Json)

namespace Reader

/-- Puts a complete value where it belongs. -/
def deliver (v : Json) : List Frame → Reader
  | [] => .finished v
  | .array items :: outer => .nextItem (v :: items) outer
  | .object members k :: outer => .nextKey (Members.insert k v members) outer

/-- Reads a word where a value is due. -/
def beginValue (outer : List Frame) : Token → Option Reader
  | .scalar v => some (deliver v outer)
  | .string s => some (deliver (.string s) outer)
  | .openArray => if outer.length < maxDepth then some (.firstItem outer) else none
  | .openObject => if outer.length < maxDepth then some (.firstKey outer) else none
  | _ => none

/-- Reads one word: none where the grammar has no place for it. -/
def step : Reader → Token → Option Reader
  | .value outer, t => beginValue outer t
  | .firstItem outer, .closeArray => some (deliver (.array []) outer)
  | .firstItem outer, t => beginValue (.array [] :: outer) t
  | .nextItem items outer, .comma => some (.value (.array items :: outer))
  | .nextItem items outer, .closeArray => some (deliver (.array items.reverse) outer)
  | .firstKey outer, .closeObject => some (deliver (.object []) outer)
  | .firstKey outer, .string k => some (.colon [] k outer)
  | .key members outer, .string k => some (.colon members k outer)
  | .colon members k outer, .colon => some (.value (.object members k :: outer))
  | .nextKey members outer, .comma => some (.key members outer)
  | .nextKey members outer, .closeObject => some (deliver (.object members) outer)
  | _, _ => none

/-- Reads words from left to right. -/
def run (r : Reader) (words : List Token) : Option Reader := words.foldlM step r

/-- The value of a reader that has come to its end. -/
def result? : Reader → Option Json
  | .finished v => some v
  | _ => none

end Reader

/-- The value that words denote. -/
def ofTokens? (words : List Token) : Option Json :=
  (Reader.run (.value []) words).bind Reader.result?

/-- The value that a text denotes: none when it is no JSON text. -/
def parse? (text : String) : Option Json := (Token.scan text.toList).bind ofTokens?

end Responder.Json
