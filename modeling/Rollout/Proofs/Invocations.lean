import Rollout.Tools.Gcloud

/-!
# Commands word by word

What the commands of a deployment are, down to the last word: program, arguments, variables, time
limit and input. The tools put their commands together from pieces that they share, whereas what is
said of a run in this library names the commands as they are typed (`Rollout.gcloud`,
`Rollout.kubectl`).

The commands of the cluster's tool are literally built so. For those of the cloud's tool whose
options are pieced together, each theorem of this file says of one builder that it builds just that.
-/

namespace Rollout

/-- A command of the cloud's tool, which never asks back. -/
def gcloud (args : List String) : Command where
  program := "gcloud"
  args := args
  env := [("CLOUDSDK_CORE_DISABLE_PROMPTS", "1")]

/-- A command of the cluster's tool. -/
def kubectl (args : List String) : Command where
  program := "kubectl"
  args := args

namespace Tools

/-! ### The cloud's tool -/

namespace Gcloud

/-- The creation of a repository of images. -/
def repositoryCreation (project location repository : String) : Command :=
  gcloud ["artifacts", "repositories", "create", repository, "--repository-format=docker",
    "--location=" ++ location, "--description=Container images for the consent agent swarm",
    "--project=" ++ project]

/-- The query of a cluster. -/
def clusterQuery (project location name : String) : Command :=
  gcloud ["container", "clusters", "describe", name, "--region=" ++ location,
    "--project=" ++ project, "--format=value(status)"]

/-- The creation of a cluster. -/
def clusterCreation (project location name : String) (privateNodes : Bool)
    (channel : Option String) : Command :=
  gcloud (["container", "clusters", "create-auto", name, "--region=" ++ location,
    "--project=" ++ project] ++ ((if privateNodes then ["--enable-private-nodes"] else []) ++
      (channel.toList.map fun channel => "--release-channel=" ++ channel) ++ ["--quiet"]))

/-- The request for the credentials of a cluster. -/
def clusterGrant (project location name : String) : Command :=
  gcloud ["container", "clusters", "get-credentials", name, "--region=" ++ location,
    "--project=" ++ project]

theorem createRepositoryCommand_eq (project location repository : String) :
    createRepositoryCommand project location repository =
      repositoryCreation project location repository := by
  simp [createRepositoryCommand, command, Command.of, Command.withVariable, Command.flag,
    Command.arg, repositoryCreation, gcloud]

theorem describeClusterCommand_eq (c : ClusterName) :
    describeClusterCommand c = clusterQuery c.project c.location c.name := by
  simp [describeClusterCommand, command, Command.of, Command.withVariable, Command.flag,
    Command.arg, clusterQuery, gcloud]

theorem createClusterCommand_eq (c : ClusterName) (privateNodes : Bool) (channel : Option String) :
    createClusterCommand c privateNodes channel =
      clusterCreation c.project c.location c.name privateNodes channel := by
  cases privateNodes <;> cases channel <;>
    simp [createClusterCommand, command, Command.of, Command.withVariable, Command.flag,
      Command.flag?, Command.switch, Command.arg, clusterCreation, gcloud]

theorem credentialsCommand_eq (c : ClusterName) :
    credentialsCommand c = clusterGrant c.project c.location c.name := by
  simp [credentialsCommand, command, Command.of, Command.withVariable, Command.flag, Command.arg,
    clusterGrant, gcloud]

end Gcloud

end Tools

end Rollout
