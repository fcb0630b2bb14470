import Rollout.Pipeline
import Rollout.Tools.Gcloud

/-!
# Provisioning

What two stages of the deployment provide: the project with its services and its repository of
images, and the cluster with the credentials for it. To find a repository or a cluster there already
is a warning or a failure, as the policy of the stage says.
-/

namespace Rollout.Stages.Provisioning

/-- The failure of a command that was to provide something. -/
def failure (code : UInt16) (message resource : String) (e : ProcessError) : Failure :=
  ((Failure.provisioning code message resource).withContext e.message).withCauses e.chain

/-- What became of creating something under a policy. -/
def created (policy : Policy) (label : String) (a : Attempt ProcessError Output) :
    Attempt ProcessError Creation := do
  let output ← a
  Attempt.ofExcept (policy.resolve label output)

/-! ### The project -/

/-- Makes the project the active one. -/
def selectProject (project : String) : Attempt Failure Unit := do
  Attempt.display (.info ("Setting active project to " ++ project))
  Attempt.mapFailure
    (fun e => (failure FailureCode.projectContext "cannot set project" project e).withRemediation
      ("gcloud projects describe " ++ project))
    (Tools.Gcloud.setProject project)

/-- Enables services, if there are any. -/
def enableServices (project : String) (apis : List String) : Attempt Failure Unit :=
  if apis.isEmpty then return ()
  else do
    Attempt.display (.info ("Enabling APIs: " ++ ", ".intercalate apis))
    Attempt.mapFailure
      (fun e => (failure FailureCode.apiEnable "cannot enable APIs" project e).withRemediation
        ("gcloud services enable " ++ " ".intercalate apis ++ " --project=" ++ project))
      (Tools.Gcloud.enableServices project apis)

/-- Creates the repository of images. -/
def createRepository (c : Configuration) (policy : Policy) (o : Outcome) :
    Attempt Failure Outcome := do
  Attempt.display (.info ("Creating artifact repository " ++ c.repository ++ " in " ++ c.region))
  let creation ← Attempt.mapFailure
    (failure FailureCode.repository "cannot create artifact repository" c.repository)
    (created policy ("gcloud artifacts repositories create " ++ c.repository)
      (Tools.Gcloud.createRepository c.projectId c.region c.repository))
  match creation with
  | .created =>
    Attempt.display (.success ("Artifact repository " ++ c.repository ++ " created"))
    return o
  | .alreadyExisted =>
    o.warn ("Artifact repository " ++ c.repository ++ " already exists, reusing it")

/-- Provides the project: selects it, enables its services, creates its repository. -/
def project (c : Configuration) (apis : List String) (policy : Policy) :
    Attempt Failure Outcome := do
  selectProject c.projectId
  enableServices c.projectId apis
  let o ← createRepository c policy .silent
  return o.note ("registry " ++ c.registry)

/-! ### The cluster -/

/-- The cluster of a configuration. -/
def clusterName (c : Configuration) : Tools.Gcloud.ClusterName :=
  ⟨c.projectId, c.region, c.clusterName⟩

/-- Whether a cluster of the given status can be used as it is. -/
def isUsable (status : String) : Bool := ["RUNNING", "RECONCILING"].contains status

/-- The failure of a cluster that is there but cannot be used. -/
def unhealthyFailure (c : Configuration) (status : String) : Failure :=
  (Failure.provisioning FailureCode.clusterUnhealthy ("cluster exists but is " ++ status)
    c.clusterName).withRemediation
    ("gcloud container clusters describe " ++ c.clusterName ++ " --region=" ++ c.region ++
      " --project=" ++ c.projectId)

/-- Creates the cluster. -/
def createCluster (c : Configuration) (s : ClusterSettings) (policy : Policy) (o : Outcome) :
    Attempt Failure Outcome := do
  Attempt.display (.info ("Creating Autopilot cluster " ++ c.clusterName ++ " in " ++ c.region ++
    " (this takes several minutes)"))
  let creation ← Attempt.mapFailure
    (failure FailureCode.clusterCreate "cluster creation failed" c.clusterName)
    (created policy ("gcloud container clusters create-auto " ++ c.clusterName)
      (Tools.Gcloud.createCluster (clusterName c) s.privateNodes s.releaseChannel))
  match creation with
  | .created =>
    Attempt.display (.success ("Cluster " ++ c.clusterName ++ " created"))
    return o
  | .alreadyExisted =>
    o.warn ("Cluster " ++ c.clusterName ++ " was created concurrently, reusing it")

/-- Sees to it that the cluster is there. -/
def ensureCluster (c : Configuration) (s : ClusterSettings) (policy : Policy) :
    Attempt Failure Outcome := do
  let status ← Attempt.mapFailure
    (failure FailureCode.clusterCreate "cannot query cluster status" c.clusterName)
    (Tools.Gcloud.clusterStatus (clusterName c))
  match status with
  | some status =>
    if isUsable status then
      Attempt.display (.info ("Cluster " ++ c.clusterName ++ " already exists (" ++ status ++
        "), skipping creation"))
      return .silent
    else Attempt.fail (unhealthyFailure c status)
  | none => createCluster c s policy .silent

/-- Provides the cluster and the credentials for it. -/
def cluster (c : Configuration) (s : ClusterSettings) (policy : Policy) :
    Attempt Failure Outcome := do
  let o ← ensureCluster c s policy
  Attempt.mapFailure
    (failure FailureCode.credentials "cannot fetch cluster credentials" c.clusterName)
    (Tools.Gcloud.getCredentials (clusterName c))
  Attempt.display (.success ("kubectl is configured for cluster " ++ c.clusterName))
  return o.note ("cluster " ++ c.clusterName ++ " in " ++ c.region)

end Rollout.Stages.Provisioning
