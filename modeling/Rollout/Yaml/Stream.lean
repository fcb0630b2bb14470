import Rollout.Yaml.Token.Lexer
import Rollout.Yaml.Value

/-!
# Streams of Yaml documents

A text holds any number of documents; `Yaml.documents?` reads them all, and answers nothing if one
of them breaks a rule.
-/

namespace Rollout.Yaml

/-- The documents of a text. -/
def documents? (text : String) : Option (List Value) := do
  let tokens ← Token.ofText? text
  let roots ← Node.ofTokens? tokens
  roots.mapM Node.value?

end Rollout.Yaml
