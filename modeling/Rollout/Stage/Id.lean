/-!
# Stages by name

The seven stages of a deployment, in the order in which they are run.
-/

namespace Rollout

/-- A stage of the deployment. -/
inductive StageId
  | validate | prerequisites | project | cluster | images | baseApp | agentSwarm
  deriving DecidableEq, Repr

namespace StageId

/-- All stages, in the order in which they are run. -/
def all : List StageId :=
  [validate, prerequisites, project, cluster, images, baseApp, agentSwarm]

/-- The name of a stage. -/
def name : StageId → String
  | validate => "validate"
  | prerequisites => "prerequisites"
  | project => "project"
  | cluster => "cluster"
  | images => "images"
  | baseApp => "base-app"
  | agentSwarm => "agent-swarm"

/-- What a stage does. -/
def description : StageId → String
  | validate => "Validate environment configuration"
  | prerequisites => "Check required tools and authentication"
  | project => "Prepare project APIs and artifact repository"
  | cluster => "Provision Autopilot cluster"
  | images => "Build and push agent images"
  | baseApp => "Deploy Bank of Anthos"
  | agentSwarm => "Deploy consent agent swarm"

/-- The stage of a name. -/
def ofName? (name : String) : Option StageId := all.find? fun id => id.name = name

theorem mem_all (id : StageId) : id ∈ all := by
  cases id <;> decide

theorem nodup_all : all.Nodup := by decide

/-- The stage of a stage's name is the stage. -/
theorem ofName?_name (id : StageId) : ofName? id.name = some id := by
  cases id <;> decide

end StageId

end Rollout
