import Rollout.Pipeline
import Rollout.Tools.Gcloud
import Rollout.Tools.Which

/-!
# Checking prerequisites

Every tool has to be there, and someone has to be logged in. The first requirement that is not met
ends the stage.
-/

namespace Rollout.Stages.Prerequisites

/-- Where to get a tool. -/
def installHint (tool : String) : String :=
  match tool with
  | "gcloud" => "Install the Google Cloud SDK: https://cloud.google.com/sdk/docs/install"
  | "kubectl" => "gcloud components install kubectl"
  | "docker" => "Install Docker: https://docs.docker.com/get-docker/"
  | other => "Install " ++ other ++ " and make sure it is on your PATH"

/-- The failure of a tool that is not there. -/
def toolFailure (tool : String) : Failure :=
  .prerequisite FailureCode.toolMissing (tool ++ " is not installed or not on PATH")
    (installHint tool)

/-- The failure of an account that cannot be told or is not there. -/
def accountFailure (message : String) : Failure :=
  .prerequisite FailureCode.notAuthenticated message "gcloud auth login"

/-- Looks for a tool, which has to be there. -/
def findTool (tool : String) : Attempt Failure Unit := do
  let found ← Attempt.mapFailure ProcessError.toFailure (Tools.which tool)
  if found then return () else Attempt.fail (toolFailure tool)

/-- Looks for tools, one by one. -/
def findTools : List String → Attempt Failure Unit
  | [] => return ()
  | tool :: rest => do
    findTool tool
    findTools rest

/-- Checks that some tools are there and that someone is logged in. -/
def check (tools : List String) : Attempt Failure Outcome := do
  findTools tools
  Attempt.display (.info ("Tools available: " ++ ", ".intercalate tools))
  let account ← Attempt.mapFailure
    (fun e => accountFailure ("cannot determine the active gcloud account (" ++ e.message ++ ")"))
    Tools.Gcloud.activeAccount
  match account with
  | some account =>
    Attempt.display (.success ("Authenticated as " ++ account))
    return Outcome.silent.note ("gcloud account " ++ account)
  | none => Attempt.fail (accountFailure "no active gcloud account")

end Rollout.Stages.Prerequisites
