import Rollout.Failure
import Rollout.Readiness.Condition

/-!
# Settings

What is deployed: the tools and services that it takes, the images, where the manifests are, and the
workloads to wait for. Everything has a default, which a settings file may override in part.

`Settings.check` refuses settings with which a run could not end well: waits that never look again,
waits that are too long, and two images of one name.
-/

namespace Rollout

/-- The cluster to be created. -/
structure ClusterSettings where
  privateNodes : Bool
  releaseChannel : Option String
  deriving DecidableEq, Repr

/-- An image to be built. -/
structure ImageSpec where
  name : String
  dockerfile : Option String
  deriving DecidableEq, Repr

/-- The images, built and pushed in their order. -/
structure ImageSettings where
  context : String
  platform : Option String
  workloads : List ImageSpec
  deriving DecidableEq, Repr

/-- The application that the agents need. -/
structure BaseAppSettings where
  /-- Applied before the manifests. -/
  extras : List String
  manifests : String
  workloads : List Condition
  deriving DecidableEq, Repr

/-- The agents. -/
structure AgentSettings where
  space : String
  template : String
  workloads : List Condition
  deriving DecidableEq, Repr

/-- How workloads are waited for. -/
structure ReadinessSettings where
  pollInterval : Duration
  /-- How long a single look may take. -/
  probeTimeout : Duration
  deriving DecidableEq, Repr

/-- The layout of a deployment. -/
structure Settings where
  requiredTools : List String
  apis : List String
  cluster : ClusterSettings
  images : ImageSettings
  baseApp : BaseAppSettings
  agents : AgentSettings
  readiness : ReadinessSettings
  deriving DecidableEq, Repr

namespace ImageSettings

/-- A path below a directory. -/
def join (dir name : String) : String :=
  if dir.isEmpty ∨ dir.toList.getLast? = some '/' then dir ++ name else dir ++ "/" ++ name

/-- Where the build of an image is described: `Dockerfile.<name>` in the context unless it says
otherwise. -/
def dockerfileFor (s : ImageSettings) (image : ImageSpec) : String :=
  image.dockerfile.getD (join s.context ("Dockerfile." ++ image.name))

end ImageSettings

namespace Settings

/-! ### Defaults -/

/-- The agents by name. -/
def agentNames : List String :=
  ["monitoring-agent", "validation-agent", "audit-agent", "streamlit-dashboard"]

/-- Where the agents are. -/
def agentSpace : String := "agents-ns"

def defaultCluster : ClusterSettings := ⟨true, some "regular"⟩

def defaultImages : ImageSettings :=
  ⟨"agents", some "linux/amd64", agentNames.map fun name => ⟨name, none⟩⟩

def defaultBaseApp : BaseAppSettings where
  extras := ["bank-of-anthos/extras/jwt/jwt-secret.yaml"]
  manifests := "bank-of-anthos/kubernetes-manifests"
  workloads :=
    (["accounts-db", "ledger-db"].map fun name => .available .statefulSet name "default") ++
    (["frontend", "userservice", "contacts", "balancereader", "ledgerwriter",
      "transactionhistory"].map fun name => .available .deployment name "default")

def defaultAgents : AgentSettings where
  space := agentSpace
  template := "k8s/agents-deployment.yaml"
  workloads :=
    (agentNames.map fun name => .available .deployment name agentSpace) ++
    [⟨.service, "streamlit-dashboard", agentSpace, .externalIp, Condition.defaultTimeout⟩]

def defaultReadiness : ReadinessSettings := ⟨.ofSeconds 5, .ofSeconds 30⟩

/-- The built-in layout. -/
def builtIn : Settings where
  requiredTools := ["gcloud", "kubectl", "docker"]
  apis := ["container.googleapis.com", "artifactregistry.googleapis.com",
    "compute.googleapis.com", "generativelanguage.googleapis.com"]
  cluster := defaultCluster
  images := defaultImages
  baseApp := defaultBaseApp
  agents := defaultAgents
  readiness := defaultReadiness

/-! ### Checks -/

/-- A failure of the settings. -/
def failure (message : String) : Failure := .configuration FailureCode.settingsFile message

/-- The first name that occurs again behind names already seen. -/
def repeated? (seen : List String) : List String → Option String
  | [] => none
  | name :: rest => if seen.contains name then some name else repeated? (name :: seen) rest

/-- The workloads that are waited for, in the order in which they are. -/
def workloads (s : Settings) : List Condition := s.baseApp.workloads ++ s.agents.workloads

/-- The failure of settings that cannot be used, if they cannot. -/
def violation? (s : Settings) : Option Failure :=
  if s.readiness.pollInterval.nanos = 0 then
    some (failure "readiness.poll_interval must be greater than zero")
  else
    match s.workloads.find? fun c => Condition.maxTimeout.nanos < c.timeout.nanos with
    | some c =>
      some (failure ("Timeout for " ++ c.workload ++ " exceeds " ++ Condition.maxTimeout.describe))
    | none =>
      (repeated? [] (s.images.workloads.map ImageSpec.name)).map fun name =>
        failure ("Image '" ++ name ++ "' is declared twice")

/-- Settings that can be used. -/
def check (s : Settings) : Except Failure Settings :=
  match s.violation? with
  | some f => .error f
  | none => .ok s

theorem check_builtIn : builtIn.check = .ok builtIn := by rfl

end Settings

end Rollout
