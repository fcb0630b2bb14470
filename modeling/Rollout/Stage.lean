import Rollout.Settings
import Rollout.Stage.Id
import Rollout.Stage.Policy

/-!
# Stages

A stage is a unit of work with what it needs: the stages that have to be completed before it, what a
duplicate means to it, and the workloads to wait for when its work is done. The catalog holds the
seven stages of a deployment.
-/

namespace Rollout

/-- A unit of work. -/
structure Stage where
  id : StageId
  /-- The stages that have to be completed in the same run. -/
  dependencies : List StageId
  policy : Policy
  /-- Waited for, in order, when the work is done. -/
  readiness : List Condition
  deriving DecidableEq, Repr

/-- The stages of a deployment, in the order in which they are run. The base application is applied
declaratively, which knows no duplicates. -/
def catalog (settings : Settings) : List Stage :=
  [⟨.validate, [], .notApplicable, []⟩,
   ⟨.prerequisites, [], .notApplicable, []⟩,
   ⟨.project, [.validate, .prerequisites], .treatDuplicateAsSuccess, []⟩,
   ⟨.cluster, [.project], .treatDuplicateAsSuccess, []⟩,
   ⟨.images, [.project], .notApplicable, []⟩,
   ⟨.baseApp, [.validate, .prerequisites], .notApplicable, settings.baseApp.workloads⟩,
   ⟨.agentSwarm, [.validate, .prerequisites], .treatDuplicateAsSuccess,
     settings.agents.workloads⟩]

/-- The catalog has each stage once, in order. -/
theorem map_id_catalog (settings : Settings) : (catalog settings).map Stage.id = StageId.all := rfl

end Rollout
