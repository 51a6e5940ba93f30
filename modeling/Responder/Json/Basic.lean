/-
# Responder.Json.Basic -- JSON values

Numbers keep apart integers, which have a range of their own, and binary64
numbers.  The members of an object are a list in strictly increasing order of
key, by code points (which is also the order of their UTF-8 bytes); `insert`
keeps that order and lets a later member replace an earlier one of the same
key, and `lookup` finds what was inserted last.
-/
import Responder.Numeral.Binary64

namespace Responder

set_option autoImplicit false

namespace Json

/-- A JSON number: an integer from `-2^63` up to but not including `2^64`, or a
finite binary64 number. -/
inductive Number where
  | integer (value : Int) (inRange : -2 ^ 63 ≤ value ∧ value < 2 ^ 64)
  | float (value : Numeral.Binary64)
  deriving DecidableEq

/-- The integer as a JSON number, if it is in range. -/
def Number.ofInt? (i : Int) : Option Number :=
  if h : -2 ^ 63 ≤ i ∧ i < 2 ^ 64 then some (.integer i h) else none

/-- The shapes a JSON value can have. -/
inductive Shape where
  | null | bool | number | string | array | object
  deriving DecidableEq, Repr

/-- A shape's name in messages. -/
def Shape.name : Shape → String
  | .null => "null"
  | .bool => "bool"
  | .number => "number"
  | .string => "string"
  | .array => "array"
  | .object => "object"

end Json

/-- A JSON value. -/
inductive Json where
  | null
  | bool (value : Bool)
  | number (value : Json.Number)
  | string (value : String)
  | array (items : List Json)
  | object (members : List (String × Json))

namespace Json

instance : Inhabited Json := ⟨.null⟩

/-- The members of an object, in order of key. -/
abbrev Members := List (String × Json)

/-- The shape of a value. -/
def shape : Json → Shape
  | .null => .null
  | .bool _ => .bool
  | .number _ => .number
  | .string _ => .string
  | .array _ => .array
  | .object _ => .object

/-- The text of a string value. -/
def string? : Json → Option String
  | .string s => some s
  | _ => none

namespace Members

/-- The value of a key. -/
def lookup (key : String) : Members → Option Json
  | [] => none
  | (k, v) :: rest => if k = key then some v else lookup key rest

/-- The members with one more, which takes the place of a member of the same key. -/
def insert (key : String) (value : Json) : Members → Members
  | [] => [(key, value)]
  | (k, v) :: rest =>
    if key < k then (key, value) :: (k, v) :: rest
    else if key = k then (key, value) :: rest
    else (k, v) :: insert key value rest

/-- Members inserted one after another. -/
def ofList (members : List (String × Json)) : Members :=
  members.foldl (fun acc m => insert m.1 m.2 acc) []

end Members

/-- The value of a field: only objects have fields. -/
def field? (name : String) : Json → Option Json
  | .object members => Members.lookup name members
  | _ => none

/-- An object from members in any order; of members with one key the last counts. -/
def ofMembers (members : List (String × Json)) : Json := .object (Members.ofList members)

end Json

end Responder
