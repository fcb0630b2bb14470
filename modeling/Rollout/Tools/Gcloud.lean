import Rollout.Session
import Rollout.Text.Search

/-!
# The cloud's tool

The commands of `gcloud` that a deployment needs. Every one of them runs with interactive prompts
disabled. Commands that create something answer their output as it is, since a duplicate may be
welcome.
-/

namespace Rollout.Tools.Gcloud

/-- A command of the tool that never asks back. -/
def command (args : List String) : Command :=
  (Command.of "gcloud" args).withVariable "CLOUDSDK_CORE_DISABLE_PROMPTS" "1"

/-- Where a cluster is and what it is called. -/
structure ClusterName where
  project : String
  location : String
  name : String
  deriving DecidableEq, Repr

/-! ### Commands -/

def authListCommand : Command :=
  ((command ["auth", "list"]).flag "filter" "status:ACTIVE").flag "format" "value(account)"

def setProjectCommand (project : String) : Command := command ["config", "set", "project", project]

def enableServicesCommand (project : String) (services : List String) : Command :=
  (command (["services", "enable"] ++ services)).flag "project" project

def createRepositoryCommand (project location repository : String) : Command :=
  (((command ["artifacts", "repositories", "create", repository]).flag "repository-format" "docker").flag
    "location" location).flag "description" "Container images for the consent agent swarm"
    |>.flag "project" project

def describeClusterCommand (c : ClusterName) : Command :=
  ((command ["container", "clusters", "describe", c.name]).flag "region" c.location).flag
    "project" c.project |>.flag "format" "value(status)"

def createClusterCommand (c : ClusterName) (privateNodes : Bool) (channel : Option String) :
    Command :=
  ((command ["container", "clusters", "create-auto", c.name]).flag "region" c.location).flag
    "project" c.project |>.switch "enable-private-nodes" privateNodes
    |>.flag? "release-channel" channel |>.switch "quiet" true

def credentialsCommand (c : ClusterName) : Command :=
  ((command ["container", "clusters", "get-credentials", c.name]).flag "region" c.location).flag
    "project" c.project

def configureDockerCommand (host : String) : Command :=
  command ["auth", "configure-docker", host, "--quiet"]

/-! ### Sessions -/

/-- The first line of a listing that is not blank. -/
def firstLine? (listing : String) : Option String :=
  ((Text.lines listing).map Text.trim).find? fun line => !line.isEmpty

/-- The account that is logged in, if one is. -/
def activeAccount : Attempt ProcessError (Option String) := do
  let output ← Attempt.runChecked authListCommand
  return firstLine? output.stdout

def setProject (project : String) : Attempt ProcessError Unit := do
  let _ ← Attempt.runChecked (setProjectCommand project)

def enableServices (project : String) (services : List String) : Attempt ProcessError Unit := do
  let _ ← Attempt.runChecked (enableServicesCommand project services)

def createRepository (project location repository : String) : Attempt ProcessError Output :=
  Attempt.run (createRepositoryCommand project location repository)

/-- Whether an error text says that something does not exist. -/
def saysNotFound (stderr : String) : Bool :=
  Text.contains stderr "NOT_FOUND" || Text.contains (Text.lower stderr) "not found"

/-- The status of a cluster, if it exists. -/
def clusterStatus (c : ClusterName) : Attempt ProcessError (Option String) := do
  let output ← Attempt.run (describeClusterCommand c)
  if output.succeeded then return some (Text.trim output.stdout)
  else if saysNotFound output.stderr then return none
  else
    let _ ← Attempt.ofExcept (output.success? (describeClusterCommand c))
    return none

def createCluster (c : ClusterName) (privateNodes : Bool) (channel : Option String) :
    Attempt ProcessError Output :=
  Attempt.run (createClusterCommand c privateNodes channel)

def getCredentials (c : ClusterName) : Attempt ProcessError Unit := do
  let _ ← Attempt.runChecked (credentialsCommand c)

def configureDocker (host : String) : Attempt ProcessError Unit := do
  let _ ← Attempt.runChecked (configureDockerCommand host)

end Rollout.Tools.Gcloud
