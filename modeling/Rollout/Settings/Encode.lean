import Rollout.Json
import Rollout.Settings

/-!
# Settings as Json

Records become objects with a field for each of theirs; durations are written in words.
-/

namespace Rollout

/-- A condition as Json. -/
def Condition.toJson (c : Condition) : Json :=
  .object [("kind", .text c.kind.name), ("name", .text c.name), ("namespace", .text c.space),
    ("predicate", .text c.predicate.name), ("timeout", .text c.timeout.describe)]

namespace Settings

def clusterJson (s : ClusterSettings) : Json :=
  .object [("private_nodes", .bool s.privateNodes), ("release_channel", .ofText? s.releaseChannel)]

def imageJson (s : ImageSpec) : Json :=
  .object [("name", .text s.name), ("dockerfile", .ofText? s.dockerfile)]

def imagesJson (s : ImageSettings) : Json :=
  .object [("context", .text s.context), ("platform", .ofText? s.platform),
    ("workloads", .list (s.workloads.map imageJson))]

def baseAppJson (s : BaseAppSettings) : Json :=
  .object [("extras", .texts s.extras), ("manifests", .text s.manifests),
    ("workloads", .list (s.workloads.map Condition.toJson))]

def agentsJson (s : AgentSettings) : Json :=
  .object [("namespace", .text s.space), ("template", .text s.template),
    ("workloads", .list (s.workloads.map Condition.toJson))]

def readinessJson (s : ReadinessSettings) : Json :=
  .object [("poll_interval", .text s.pollInterval.describe),
    ("probe_timeout", .text s.probeTimeout.describe)]

/-- The settings as Json. -/
def toJson (s : Settings) : Json :=
  .object [("required_tools", .texts s.requiredTools), ("apis", .texts s.apis),
    ("cluster", clusterJson s.cluster), ("images", imagesJson s.images),
    ("base_app", baseAppJson s.baseApp), ("agents", agentsJson s.agents),
    ("readiness", readinessJson s.readiness)]

end Settings

end Rollout
