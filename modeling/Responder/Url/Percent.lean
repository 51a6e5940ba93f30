/-
# Responder.Url.Percent -- percent encoding

A character outside of a part's plain characters is written as its UTF-8 bytes,
each as a percent sign and two upper-case hexadecimal digits.  Decoding leaves
percent signs alone that no two digits follow.
-/

namespace Responder.Url

set_option autoImplicit false

/-- An upper-case hexadecimal digit. -/
def upperHex (n : Nat) : Char := if n < 10 then Char.ofNat (48 + n) else Char.ofNat (55 + n)

/-- A byte as a percent sign and two digits. -/
def encodeByte (b : UInt8) : List Char :=
  ['%', upperHex (b.toNat / 16), upperHex (b.toNat % 16)]

/-- A character, encoded unless it is plain; only visible ASCII can be plain. -/
def encodeChar (plain : Char → Bool) (c : Char) : List Char :=
  if 0x20 ≤ c.toNat && c.toNat < 0x7F && plain c then [c]
  else (String.utf8EncodeChar c).flatMap encodeByte

/-- A text with all but the plain characters encoded. -/
def encode (plain : Char → Bool) (cs : List Char) : List Char := cs.flatMap (encodeChar plain)

/-- Plain characters of a fragment. -/
def plainInFragment (c : Char) : Bool := !" \"<>\x60".toList.contains c

/-- Plain characters of a path. -/
def plainInPath (c : Char) : Bool := plainInFragment c && !"#?\x7b\x7d".toList.contains c

/-- Plain characters of a user name or password. -/
def plainInUserInfo (c : Char) : Bool := plainInPath c && !"/:;=@[\\]^|".toList.contains c

/-- Plain characters of a query. -/
def plainInQuery (c : Char) : Bool := !" \"#<>'".toList.contains c

/-- The value of a hexadecimal digit. -/
def hexDigit? (c : Char) : Option Nat :=
  let n := c.toNat
  if 48 ≤ n ∧ n < 58 then some (n - 48)
  else if 97 ≤ n ∧ n < 103 then some (n - 87)
  else if 65 ≤ n ∧ n < 71 then some (n - 55)
  else none

/-- The bytes of a text with its percent signs decoded. -/
def decodeBytes : List Char → List UInt8
  | [] => []
  | '%' :: a :: b :: rest =>
    match hexDigit? a, hexDigit? b with
    | some x, some y => UInt8.ofNat (16 * x + y) :: decodeBytes rest
    | _, _ => 37 :: decodeBytes (a :: b :: rest)
  | c :: rest => String.utf8EncodeChar c ++ decodeBytes rest

/-- A text with its percent signs decoded: none when that is no UTF-8. -/
def decode? (cs : List Char) : Option (List Char) :=
  (String.fromUTF8? ⟨(decodeBytes cs).toArray⟩).map String.toList

end Responder.Url
