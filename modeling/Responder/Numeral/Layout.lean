/-
# Responder.Numeral.Layout -- how a decimal is laid out

A `Layout` records the choices a format makes between positional notation
(`1500`, `0.25`) and notation with an exponent (`1.5e+07`); `Layout.text` writes
a decimal by it.  The digits are never changed: both notations show the same
ones, and only zeros are added to reach the point.
-/
import Responder.Numeral.Shortest

namespace Responder.Numeral

set_option autoImplicit false

/-- A format's choices: positional notation is for exponents from
`positionalFrom` up to but not including `positionalBelow`, `wholePoint` adds
`.0` to whole numbers written positionally, and an exponent has at least
`exponentWidth` digits and always a sign. -/
structure Layout where
  positionalFrom : Int
  positionalBelow : Int
  wholePoint : Bool
  exponentWidth : Nat

namespace Layout

/-- Whether decimals of this exponent are written positionally. -/
def isPositional (l : Layout) (exponent : Int) : Bool :=
  l.positionalFrom ≤ exponent && exponent < l.positionalBelow

def zeros (n : Nat) : List Char := List.replicate n '0'

def digitChars (ds : List Digit) : List Char := ds.map Digit.toChar

/-- The part after the point, with the point, or what stands for no such part. -/
def fraction (l : Layout) (ds : List Char) : List Char :=
  if ds.isEmpty then (if l.wholePoint then ['.', '0'] else []) else '.' :: ds

/-- Positional notation of the digits `ds` with the leading one worth `10 ^ exponent`. -/
def positional (l : Layout) (ds : List Char) : Int → List Char
  | .ofNat e => ds.take (e + 1) ++ zeros (e + 1 - ds.length) ++ l.fraction (ds.drop (e + 1))
  | .negSucc e => '0' :: l.fraction (zeros e ++ ds)

/-- The sign and magnitude of an exponent. -/
def exponentText (l : Layout) (exponent : Int) : List Char :=
  let magnitude := natText exponent.natAbs
  (if exponent < 0 then '-' else '+') :: (zeros (l.exponentWidth - magnitude.length) ++ magnitude)

/-- Notation with an exponent. -/
def withExponent (l : Layout) (x : Scientific) : List Char :=
  x.lead.toChar :: ((if x.rest.isEmpty then [] else '.' :: digitChars x.rest) ++
    'e' :: l.exponentText x.exponent)

/-- A decimal written by a layout. -/
def text (l : Layout) (x : Scientific) : List Char :=
  (if x.negative then ['-'] else []) ++
    if l.isPositional x.exponent then l.positional (digitChars x.digits) x.exponent
    else l.withExponent x

end Layout

end Responder.Numeral
