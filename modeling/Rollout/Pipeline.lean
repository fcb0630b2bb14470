import Rollout.Configuration
import Rollout.Plan
import Rollout.Readiness.Waiter
import Rollout.Report

/-!
# Running a plan

The stages of a plan are run strictly in order, and the first failure ends the run: it is masked,
recorded, and every stage behind it is recorded as not run. What completed stages did stays in place.

A stage runs only when the list of completed stages has its dependencies. Its work comes first, and
then its workloads are waited for, one by one.

The work is given all that the stages of the run share, and what it hands back is what they share
from then on, the list of completed stages included: only what the run adds to that list behind a
stage is its own. The stages of the catalog leave the list as it is.
-/

namespace Rollout

/-- What a stage that did not fail has to say. -/
structure Outcome where
  warnings : List String
  notes : List String
  deriving DecidableEq, Repr

namespace Outcome

/-- Nothing to say. -/
def silent : Outcome := ⟨[], []⟩

/-- Adds a note. -/
def note (o : Outcome) (text : String) : Outcome := { o with notes := o.notes ++ [text] }

/-- Adds a warning. -/
def addWarning (o : Outcome) (text : String) : Outcome := { o with warnings := o.warnings ++ [text] }

/-- Shows a warning and keeps it for the report. -/
def warn {ε : Type} (o : Outcome) (text : String) : Attempt ε Outcome := do
  Attempt.display (.warning text)
  return o.addWarning text

end Outcome

/-- What the stages of a run share. -/
structure Context where
  configuration : Option Configuration
  completed : List StageId

namespace Context

/-- At the beginning of a run. -/
def empty : Context := ⟨none, []⟩

/-- The failure of a stage that needs a configuration before there is one. -/
def missingConfiguration : Failure :=
  .pipeline FailureCode.missingConfiguration "configuration has not been validated in this run" none

/-- The configuration of the run. -/
def require (ctx : Context) : Except Failure Configuration :=
  match ctx.configuration with
  | some c => .ok c
  | none => .error missingConfiguration

/-- A text without what the configuration keeps secret. -/
def mask (configuration : Option Configuration) (text : String) : String :=
  match configuration with
  | some c => c.mask text
  | none => text

/-- The dependencies of a stage that have not been completed. -/
def unmet (ctx : Context) (stage : Stage) : List StageId :=
  stage.dependencies.filter fun id => !ctx.completed.contains id

/-- Behind a stage that did not fail. -/
def complete (ctx : Context) (id : StageId) : Context := { ctx with completed := ctx.completed ++ [id] }

end Context

/-- What came of the work of a stage, and what the stages of the run share behind it. -/
structure Work where
  ctx : Context
  outcome : Except Failure Outcome

/-- The work behind each stage. Nothing keeps it from handing back other things than it was given. -/
abbrev Actions : Type := Stage → Context → Session Work

/-- What a run is made of. -/
structure Pipeline where
  actions : Actions
  waiter : Waiter

namespace Pipeline

/-- The failure of a stage whose dependencies have not been completed. -/
def unmetFailure (stage : Stage) (unmet : List StageId) : Failure :=
  .pipeline FailureCode.dependencyNotMet ("requires " ++ Plan.commas unmet ++ " to complete first")
    (some stage.id.name)

/-- Tells the operator that a workload is ready; an address is noted for the report. -/
def announce (c : Condition) (detail : String) (o : Outcome) : Attempt Failure Outcome :=
  match c.predicate with
  | .externalIp => do
    Attempt.display (.success (c.workload ++ " reachable at http://" ++ detail))
    return o.note (c.workload ++ " external address " ++ detail)
  | .available => do
    Attempt.display (.success (c.workload ++ " ready (" ++ detail ++ ")"))
    return o

/-- Waits for some workloads, one by one. -/
def await (w : Waiter) : List Condition → Outcome → Attempt Failure Outcome
  | [], o => return o
  | c :: rest, o => do
    Attempt.display (.info ("Waiting for " ++ c.workload ++ " in " ++ c.space))
    let detail ← w.require c
    let o ← announce c detail o
    await w rest o

/-- Does the work of a stage and waits for its workloads. -/
def perform (p : Pipeline) (stage : Stage) (ctx : Context) : Session Work := do
  Session.begin stage.id
  let work ← p.actions stage ctx
  match work.outcome with
  | .error f => return ⟨work.ctx, .error f⟩
  | .ok o =>
    let outcome ← ExceptT.run (await p.waiter stage.readiness o)
    return ⟨work.ctx, outcome⟩

/-- Runs a stage, if its dependencies have been completed. -/
def runStage (p : Pipeline) (stage : Stage) (ctx : Context) : Session Work :=
  match ctx.unmet stage with
  | [] => p.perform stage ctx
  | unmet => return ⟨ctx, .error (unmetFailure stage unmet)⟩

/-- The time that it is. -/
def now : Session Timestamp := do return .afterEpoch (← Session.clock)

/-- Records that a stage failed and that those behind it were not run. -/
def recordFailure (r : Report) (record : StageRecord) (behind : List Stage) : Report :=
  behind.foldl (fun r stage => r.add (.notRun stage.id)) (r.add record)

/-- The line that announces a stage. -/
def stageLine (total number : Nat) (stage : Stage) : Line :=
  .info ("[" ++ toString number ++ "/" ++ toString total ++ "] " ++ stage.id.description)

/-- The line that ends a run in which no stage failed. -/
def finishLine (goal : Goal) (total : Nat) : Line :=
  .success ("'" ++ goal.token ++ "' finished: " ++ toString total ++ " stage(s) completed")

/-- Runs the stages that are left of a plan of `total` stages; `number` counts from one. -/
def runFrom (p : Pipeline) (goal : Goal) (total : Nat) :
    (number : Nat) → List Stage → Context → Report → Session (Report × Except Failure Unit)
  | _, [], _, r => do
    let r := r.finish (← now) none
    Session.display (finishLine goal total)
    return (r, .ok ())
  | number, stage :: rest, ctx, r => do
    Session.display (stageLine total number stage)
    let startedAt ← now
    let started ← Session.clock
    let work ← p.runStage stage ctx
    let took : Duration := ⟨(← Session.clock).nanos - started.nanos⟩
    match work.outcome with
    | .ok o =>
      runFrom p goal total (number + 1) rest (work.ctx.complete stage.id)
        (r.add (.succeeded stage.id startedAt took o.warnings o.notes))
    | .error f =>
      let f := f.masked (Context.mask work.ctx.configuration)
      let r := recordFailure r (.failed stage.id startedAt took f.text) rest
      return (r.finish (← now) (some f), .error f)

/-- Runs a plan. -/
def run (p : Pipeline) (plan : Plan) (r : Report) : Session (Report × Except Failure Unit) :=
  p.runFrom plan.goal plan.stages.length 1 plan.stages .empty r

end Pipeline

end Rollout
