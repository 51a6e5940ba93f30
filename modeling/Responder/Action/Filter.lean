/-
# Responder.Action.Filter -- which events an action is for
-/
import Responder.Event.Basic
import Responder.Pattern.Match
import Responder.Pattern.Size

namespace Responder.Action

set_option autoImplicit false

/-- A pattern and its source. -/
structure Filter where
  source : String
  regex : Pattern.Regex

namespace Filter

/-- The filter of a pattern's source, if it is a pattern. -/
def ofSource? (source : String) : Option Filter := (Pattern.Regex.parse? source).map (⟨source, ·⟩)

/-- A filter admits the events whose rule has an id in which the pattern
matches somewhere. -/
def admits (filter : Filter) (event : Event) : Bool :=
  event.ruleId != "" && filter.regex.isMatch event.ruleId

end Filter

end Responder.Action
