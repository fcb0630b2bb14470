import Rollout.Yaml.Tag

/-!
# Tokens of Yaml

The tokens into which a stream is cut. Indentation has become tokens of its own: the start of a
block sequence or mapping, and the end of either.
-/

namespace Rollout.Yaml

/-- A token. -/
inductive Token
  | streamEnd
  | versionDirective (major minor : Nat)
  | tagDirective (handle : String) (expansion : Tag)
  | documentStart
  | documentEnd
  | blockSequenceStart
  | blockMappingStart
  | blockEnd
  | flowSequenceStart
  | flowSequenceEnd
  | flowMappingStart
  | flowMappingEnd
  | blockEntry
  | flowEntry
  | key
  | value
  | alias (name : String)
  | anchor (name : String)
  | tag (handle : String) (suffix : Tag)
  | scalar (text : String) (plain : Bool)
  deriving DecidableEq, Repr

end Rollout.Yaml
