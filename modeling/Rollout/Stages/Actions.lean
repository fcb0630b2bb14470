import Rollout.Configuration.Validation
import Rollout.Stages.Images
import Rollout.Stages.Manifests
import Rollout.Stages.Prerequisites
import Rollout.Stages.Provisioning

/-!
# The work of the stages

What each stage of the catalog does, and the pipeline that does it.
-/

namespace Rollout.Stages

/-- The work of a stage that changes nothing of what the stages share. -/
def plain (ctx : Context) (a : Attempt Failure Outcome) : Session Work := do
  return ⟨ctx, ← ExceptT.run a⟩

/-- The work of a stage that needs a configuration. -/
def configured (ctx : Context) (f : Configuration → Attempt Failure Outcome) : Session Work :=
  plain ctx do f (← Attempt.ofExcept ctx.require)

/-- The line about a configuration that is valid. -/
def validLine (c : Configuration) : Line :=
  .success ("Configuration valid: project " ++ c.projectId ++ ", region " ++ c.region ++
    ", cluster " ++ c.clusterName)

/-- Makes the configuration of the run. -/
def validate (env : Environment) (ctx : Context) : Session Work :=
  match Configuration.validate env with
  | .error f => return ⟨ctx, .error f⟩
  | .ok c => do
    Session.display (validLine c)
    return ⟨{ ctx with configuration := some c }, .ok .silent⟩

/-- The work of each stage. -/
def actions (files : Files) (settings : Settings) (env : Environment) : Actions := fun stage ctx =>
  match stage.id with
  | .validate => validate env ctx
  | .prerequisites => plain ctx (Prerequisites.check settings.requiredTools)
  | .project => configured ctx fun c => Provisioning.project c settings.apis stage.policy
  | .cluster => configured ctx fun c => Provisioning.cluster c settings.cluster stage.policy
  | .images => configured ctx fun c => Images.buildAndPush c settings.images
  | .baseApp => plain ctx (Manifests.deployBase files settings.baseApp)
  | .agentSwarm =>
    configured ctx fun c => Manifests.deployAgents files c settings.agents stage.policy

/-- The pipeline that does this work and looks at workloads through the cluster. -/
def pipeline (files : Files) (settings : Settings) (env : Environment) : Pipeline where
  actions := actions files settings env
  waiter := ⟨Probe.ofCluster settings.readiness.probeTimeout, settings.readiness.pollInterval⟩

end Rollout.Stages
