import Rollout.Json.Parser
import Rollout.Readiness.Status
import Rollout.Tools.Kubectl

/-!
# Looking at workloads

A probe looks at a workload once. The probe of a run asks the cluster for the object that describes
the workload and judges it.
-/

namespace Rollout

/-- A way to look at a workload. -/
abbrev Probe : Type := Condition → Attempt Failure Status

namespace Probe

/-- The failure of a query. -/
def queryFailure (c : Condition) (e : ProcessError) : Failure :=
  .readiness FailureCode.probeFailed ("status query failed: " ++ e.message) c.workload

/-- The failure of an answer that cannot be understood. -/
def statusFailure (c : Condition) (message : String) : Failure :=
  .readiness FailureCode.unreadableStatus message c.workload

/-- Judges the text that describes a workload. -/
def judge (c : Condition) (text : String) : Except Failure Status :=
  match Json.parse text with
  | .error e => .error (statusFailure c ("unreadable status: " ++ e.message))
  | .ok object => (Status.evaluate c.kind c.predicate object).mapError (statusFailure c)

/-- Asks the cluster, waiting for the answer no longer than `limit`. -/
def ofCluster (limit : Duration) : Probe := fun c => do
  let text ← Attempt.mapFailure (queryFailure c) (Tools.Kubectl.getJson c.kind.name c.name c.space limit)
  Attempt.ofExcept (judge c text)

/-- Answers the `n`th look, counted from one, with the `n`th of some answers, and each look behind
them with the last one. -/
def ofAnswers (first : Except Failure Status) (later : List (Except Failure Status)) : Probe :=
  fun _ => do
    let looks := (checksOf (← Attempt.always Session.past)).length
    Attempt.ofExcept ((first :: later).getD (looks - 1) ((first :: later).getLastD first))

end Probe

end Rollout
