/-
# Responder.Host.Isolated -- a host cut off from the rest of the world

Without a network no request gets a response.  Programs are found as ever, but
have nothing to work with and end at once, all with one exit code.  So nothing
that is done here has an effect.
-/
import Responder.Host.Services

namespace Responder.Host

set_option autoImplicit false

/-- The services of an isolated host: `find` says which programs there are, and
`code` is what they exit with. -/
def isolated {σ : Type} (find : Command → Except Fault Unit) (code : Nat) : Services σ where
  post _ world := (.ready false none, world)
  start command world :=
    ((find command).map fun _ => ⟨.ready false (.ok ()), .ready false (.ok (.ofCode code))⟩, world)
  kill _ world := world

end Responder.Host
