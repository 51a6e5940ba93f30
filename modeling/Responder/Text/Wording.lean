/-
# Responder.Text.Wording -- what readers say of texts that they refuse

The readers of JSON, of YAML and of patterns have words of their own for what is
wrong with a text, which messages quote.  Nothing here depends on these words.
-/

namespace Responder.Text

set_option autoImplicit false

/-- What each reader says of a text that it refuses. -/
structure Wording where
  json : String → String
  yaml : String → String
  pattern : String → String

/-- Readers that do not say what is wrong. -/
def Wording.elided : Wording := ⟨fun _ => "...", fun _ => "...", fun _ => "..."⟩

end Responder.Text
