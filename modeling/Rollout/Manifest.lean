import Rollout.Failure
import Rollout.Yaml.Stream

/-!
# Manifests

A manifest is a stream of Yaml documents of which at least one is not empty.
-/

namespace Rollout.Manifest

/-- The number of documents that are not empty, if there are any. -/
def documents (name document : String) : Except Failure Nat :=
  match Yaml.documents? document with
  | none =>
    .error ((Failure.apply FailureCode.malformedManifest "Rendered manifest is not valid YAML" name)
      |>.withCauses ["not well-formed"])
  | some values =>
    match (values.filter fun v => !v.isNull).length with
    | 0 =>
      .error
        (.apply FailureCode.malformedManifest "Rendered manifest contains no documents" name)
    | n + 1 => .ok (n + 1)

end Rollout.Manifest
