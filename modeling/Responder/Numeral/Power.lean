/-
# Responder.Numeral.Power -- powers of numbers

A power of a natural number or an integer is the one that the numbers come with,
also where a module sees powers in every monoid; so a bound such as `2 ^ 63` is
one term everywhere.
-/

namespace Responder.Numeral

set_option autoImplicit false

attribute [instance (20000)] instPowNat
attribute [default_instance 20000] instPowNat

end Responder.Numeral
