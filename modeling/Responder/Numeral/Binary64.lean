/-
# Responder.Numeral.Binary64 -- finite binary64 numbers in exact arithmetic

A finite binary64 number is a sign, a significand and an exponent in the one
form the format has for it (`Canonical`), so equal numbers are equal values and
the two zeros differ.  Nothing here is machine arithmetic: every operation is
natural number arithmetic followed by one rounding.

* `ofQuotient` is that rounding: the number nearest to a quotient, ties to the
  even significand, and none when the result would be infinite;
* `ofScientific` reads a decimal with one rounding, whatever its length;
* `mul` and `div` round the exact product and the exact quotient.
-/
import Responder.Numeral.Digits
import Responder.Numeral.Power

namespace Responder.Numeral

set_option autoImplicit false

namespace Binary64

/-- A significand and exponent in canonical form: the significand is full, or
the exponent is the least one. -/
def Canonical (significand : Nat) (exponent : Int) : Prop :=
  significand < 2 ^ 53 ∧ -1074 ≤ exponent ∧ exponent ≤ 971 ∧
    (exponent = -1074 ∨ 2 ^ 52 ≤ significand)

instance (significand : Nat) (exponent : Int) : Decidable (Canonical significand exponent) :=
  inferInstanceAs (Decidable (_ ∧ _ ∧ _ ∧ _))

end Binary64

/-- A finite binary64 number, worth `significand * 2 ^ exponent` with its sign. -/
structure Binary64 where
  negative : Bool
  significand : Nat
  exponent : Int
  canonical : Binary64.Canonical significand exponent
  deriving DecidableEq

namespace Binary64

/-- The zero of a sign. -/
def zero (negative : Bool) : Binary64 := ⟨negative, 0, -1074, by decide⟩

instance : Inhabited Binary64 := ⟨zero false⟩

/-- Whether a number is one of the two zeros. -/
def isZero (x : Binary64) : Bool := x.significand == 0

/-- A quotient of natural numbers rounded to the nearest one, a half to the even one. -/
def roundHalfEven (num den : Nat) : Nat :=
  if 2 * (num % den) < den then num / den
  else if den < 2 * (num % den) then num / den + 1
  else num / den + num / den % 2

/-- `num / (den * 2 ^ e)` as a pair of natural numbers. -/
def scaleDown (num den : Nat) (e : Int) : Nat × Nat :=
  (num * 2 ^ (-e).toNat, den * 2 ^ e.toNat)

/-- The exponent at which `num / den` fills the significand, not below the least one. -/
def fittingExponent (num den : Nat) : Int :=
  let e : Int := num.log2 - den.log2 - 53
  let (n, d) := scaleDown num den e
  max (-1074) (if n < 2 ^ 53 * d then e else e + 1)

/-- The number with this sign, significand and exponent, if that is canonical. -/
def ofParts? (negative : Bool) (significand : Nat) (exponent : Int) : Option Binary64 :=
  if h : Canonical significand exponent then some ⟨negative, significand, exponent, h⟩ else none

/-- The number nearest to `num / den`; none when it is too large to be finite. -/
def ofQuotient (negative : Bool) (num den : Nat) : Option Binary64 :=
  if num = 0 then some (zero negative) else
    let e := fittingExponent num den
    let (n, d) := scaleDown num den e
    let s := roundHalfEven n d
    if s < 2 ^ 53 then ofParts? negative s e else ofParts? negative (2 ^ 52) (e + 1)

/-- The number nearest to a natural number; none when it is too large to be finite. -/
def ofNat (n : Nat) : Option Binary64 := ofQuotient false n 1

/-- The number nearest to `coefficient * 10 ^ exponent`; none when it is too
large to be finite.  Exponents far outside the format's range are settled
before any power is computed. -/
def ofScientific (negative : Bool) (coefficient : Nat) (exponent : Int) : Option Binary64 :=
  let magnitude : Int := (digits coefficient).length + exponent
  if coefficient = 0 ∨ magnitude < -330 then some (zero negative)
  else if 310 < magnitude then none
  else ofQuotient negative (coefficient * 10 ^ exponent.toNat) (10 ^ (-exponent).toNat)

/-- The exact product rounded once; none when it is too large to be finite. -/
def mul (x y : Binary64) : Option Binary64 :=
  let e := x.exponent + y.exponent
  ofQuotient (x.negative != y.negative)
    (x.significand * y.significand * 2 ^ e.toNat) (2 ^ (-e).toNat)

/-- The exact quotient by a nonzero number rounded once; none when it is too
large to be finite. -/
def div (x y : Binary64) : Option Binary64 :=
  let e := x.exponent - y.exponent
  ofQuotient (x.negative != y.negative)
    (x.significand * 2 ^ e.toNat) (y.significand * 2 ^ (-e).toNat)

example : ofScientific false 1 400 = none := by decide +kernel
example : (ofScientific false 5 (-324)).map (fun x => (x.significand, x.exponent)) =
    some (1, -1074) := by decide +kernel

end Binary64

end Responder.Numeral
