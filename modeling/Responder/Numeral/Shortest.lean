/-
# Responder.Numeral.Shortest -- the fewest digits that read back

A binary64 number stands for an interval of real numbers, those that round to
it.  `shortest` gives the decimal with the fewest digits inside that interval,
and of those the one nearest to the number itself, a tie going to the even
last digit.  The search is exact: on the grid of `n` digits only the number's
two neighbours need a look, because an interval around a number that holds any
point of a grid holds one of its neighbours on that grid.
-/
import Responder.Numeral.Binary64

namespace Responder.Numeral

set_option autoImplicit false

/-- A decimal `d₁.d₂…dₙ * 10 ^ exponent` with its sign. -/
structure Scientific where
  negative : Bool
  lead : Digit
  rest : List Digit
  exponent : Int
  deriving DecidableEq

namespace Scientific

/-- All digits, the leading one first. -/
def digits (x : Scientific) : List Digit := x.lead :: x.rest

/-- Digits without the zeros at their end. -/
def dropTrailingZeros (ds : List Digit) : List Digit :=
  (ds.reverse.dropWhile (· == 0)).reverse

/-- The decimal `coefficient * 10 ^ scale`, in as few digits as it has. -/
def ofCoefficient (negative : Bool) (coefficient : Nat) (scale : Int) : Scientific :=
  match dropTrailingZeros (Numeral.digits coefficient) with
  | [] => ⟨negative, 0, [], 0⟩
  | lead :: rest => ⟨negative, lead, rest, (Numeral.digits coefficient).length - 1 + scale⟩

end Scientific

namespace Binary64

/-- The real numbers that round to a nonzero number: its own place and the two
ends, all over one denominator, and whether the ends themselves belong. -/
structure Interval where
  low : Nat
  value : Nat
  high : Nat
  denominator : Nat
  closed : Bool

/-- The interval of a number.  Below a power of two the neighbour is half as
far away, save at the least exponent. -/
def interval (x : Binary64) : Interval :=
  let up := 2 ^ (x.exponent - 2).toNat
  let below := if x.significand = 2 ^ 52 ∧ x.exponent ≠ -1074 then 1 else 2
  { low := (4 * x.significand - below) * up
    value := 4 * x.significand * up
    high := (4 * x.significand + 2) * up
    denominator := 2 ^ (2 - x.exponent).toNat
    closed := x.significand % 2 == 0 }

namespace Interval

/-- Whether `c * 10 ^ scale` lies in the interval. -/
def holds (i : Interval) (c : Nat) (scale : Int) : Bool :=
  let point := c * 10 ^ scale.toNat * i.denominator
  let grid := 10 ^ (-scale).toNat
  if i.closed then i.low * grid ≤ point && point ≤ i.high * grid
  else i.low * grid < point && point < i.high * grid

/-- The better of the value's two neighbours on the grid of `10 ^ scale`, if
one of them lies in the interval. -/
def neighbour? (i : Interval) (scale : Int) : Option Nat :=
  let unit := 10 ^ scale.toNat * i.denominator
  let place := i.value * 10 ^ (-scale).toNat
  let c := place / unit
  match i.holds c scale, i.holds (c + 1) scale with
  | true, true =>
    let past := place - c * unit
    if 2 * past < unit then some c else if unit < 2 * past then some (c + 1) else some (c + c % 2)
  | true, false => some c
  | false, true => some (c + 1)
  | false, false => none

/-- The exponent of the value's leading decimal digit, from a guess at most one
too small or too large. -/
def decimalExponent (i : Interval) (guess : Int) : Int :=
  let reaches (e : Int) : Bool :=
    10 ^ e.toNat * i.denominator ≤ i.value * 10 ^ (-e).toNat
  if reaches (guess + 1) then guess + 1 else if reaches guess then guess else guess - 1

/-- Tries grids of more and more digits, `count` of them from the one whose
step is `10 ^ scale` downwards. -/
def search (i : Interval) : Nat → Int → Option (Nat × Int)
  | 0, _ => none
  | count + 1, scale =>
    match i.neighbour? scale with
    | some c => some (c, scale)
    | none => search i count (scale - 1)

end Interval

/-- The decimal of fewest digits that reads back as the number. -/
def shortest (x : Binary64) : Scientific :=
  if x.significand = 0 then ⟨x.negative, 0, [], 0⟩ else
    let i := x.interval
    let guess : Int := ((x.significand.log2 : Int) + x.exponent) * 30103 / 100000
    match i.search 17 (i.decimalExponent guess) with
    | some (c, scale) => Scientific.ofCoefficient x.negative c scale
    | none => Scientific.ofCoefficient x.negative
        (i.value / i.denominator) 0

end Binary64

end Responder.Numeral
