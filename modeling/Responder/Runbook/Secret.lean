/-
# Responder.Runbook.Secret -- where tokens come from

A token is written in the runbook or found under a name.  Empty counts as
missing in both places.
-/
namespace Responder.Runbook

set_option autoImplicit false

/-- Secrets by name. -/
abbrev Secrets := String → Option String

namespace Secrets

/-- No secrets. -/
def none : Secrets := fun _ => Option.none

/-- Secrets from pairs of name and value; of pairs with one name the last counts. -/
def ofList (pairs : List (String × String)) : Secrets :=
  fun name => (pairs.reverse.find? (·.1 = name)).map Prod.snd

/-- The direct value, or else the value under a name. -/
def resolve (secrets : Secrets) (direct name : Option String) : Option String :=
  (direct.filter (· ≠ "")).or (((name.filter (· ≠ "")).bind secrets).filter (· ≠ ""))

end Secrets

/-- Whether a text may stand in a header. -/
def isHeaderValue (text : String) : Bool :=
  text.toList.all fun c => c == '\t' || (0x20 ≤ c.toNat && c != '\x7f')

end Responder.Runbook
