import Rollout.CommandLine.Options
import Rollout.Environment.Layers
import Rollout.Report.Encode
import Rollout.Settings.Decode
import Rollout.Stages.Actions

/-!
# Executing a command line

The command is resolved, the settings and the environment are loaded, and the plan is run, or only
described. Where a report is wanted, one is written however the run ends, unless it was a dry run; a
report that cannot be written is a warning and changes nothing else.
-/

namespace Rollout.CommandLine

/-- What a program finds when it starts. -/
structure Surroundings where
  files : Files
  environment : Environment

/-- What came of a command line. -/
structure Execution where
  result : Except Failure Unit
  /-- The report, where the command could be resolved. -/
  report : Option Report
  /-- The files afterwards. -/
  files : Files

/-- What a run needs. -/
structure Preparation where
  settings : Settings
  environment : Environment
  plan : Plan

/-- Loads what a run needs; the settings come first. -/
def prepare (s : Surroundings) (o : Options) (goal : Goal) : Except Failure Preparation := do
  let settings ← Settings.load s.files o.settings
  let environment ← s.environment.load s.files o.envFile
  return ⟨settings, environment, .ofGoal goal (catalog settings)⟩

/-! ### Dry runs -/

/-- Shows some lines for information. -/
def displayAll : List String → Attempt Failure Unit
  | [] => return ()
  | text :: rest => do
    Attempt.display (.info text)
    displayAll rest

/-- Shows the configuration of an environment, which has to be valid. -/
def describeConfiguration (env : Environment) : Attempt Failure Unit := do
  let c ← Attempt.ofExcept (Configuration.validate env)
  Attempt.display (.success "Configuration is valid")
  displayAll (c.shownEntries.map fun (name, value) => "  " ++ name ++ "=" ++ value)

/-- Describes a plan without running it; the configuration is looked at if the plan would make one. -/
def dryRun (p : Preparation) : Attempt Failure Unit := do
  if p.plan.contains .validate then describeConfiguration p.environment
  displayAll p.plan.describe
  Attempt.display (.success "Dry run complete, no external commands were run")

/-! ### Runs -/

/-- Runs or describes the plan of a goal. -/
def runGoal (s : Surroundings) (o : Options) (goal : Goal) (r : Report) :
    Session (Report × Except Failure Unit) :=
  match prepare s o goal with
  | .error f => return (r, .error f)
  | .ok p =>
    if o.dryRun then do return (r, ← ExceptT.run (dryRun p))
    else (Stages.pipeline s.files p.settings p.environment).run p.plan r

/-- The failure of a result. -/
def failure? : Except Failure Unit → Option Failure
  | .error f => some f
  | .ok () => none

/-- A report that is finished, with the result if it was not. -/
def finished (r : Report) (result : Except Failure Unit) : Session Report :=
  if r.finishedAt.isSome then return r
  else do return r.finish (← Pipeline.now) (failure? result)

/-- The failure of a report that cannot be written. -/
def reportFailure (path : String) : Failure :=
  (Failure.pipeline FailureCode.reportWrite ("Cannot write run report to " ++ path) none).withCauses
    ["not writable"]

/-- Writes a report. -/
def writeReport (files : Files) (r : Report) (path : String) : Session Files :=
  match files.write? path r.text with
  | some files => do
    Session.display (.info ("Run report written to " ++ path))
    return files
  | none => do
    Session.display (.warning (reportFailure path).text)
    return files

/-- Writes the report where one is wanted. -/
def conclude (s : Surroundings) (o : Options) (r : Report) (result : Except Failure Unit) :
    Session Execution :=
  match o.report, o.dryRun with
  | some path, false => do
    let r ← finished r result
    return ⟨result, some r, ← writeReport s.files r path⟩
  | _, _ => return ⟨result, some r, s.files⟩

/-- Tells the operator of a token that names no command. -/
def warnUnknown : Option String → Session Unit
  | some token =>
    Session.display (.warning ("Unknown command '" ++ token ++
      "', running the full pipeline (use --strict to reject)"))
  | none => return ()

/-- Executes a command line. -/
def execute (s : Surroundings) (o : Options) : Session Execution :=
  match Goal.resolve o.command o.strict with
  | .error f => return ⟨.error f, none, s.files⟩
  | .ok (goal, unknown) => do
    warnUnknown unknown
    let (r, result) ← runGoal s o goal (.begin goal.token (← Pipeline.now))
    conclude s o r result

/-- Tells the operator of the failure that ended a run. -/
def showFailure (f : Failure) : Session Unit := do
  Session.display (.error f.userMessage)
  match f.remediation? with
  | some remediation => Session.display (.info ("To fix: " ++ remediation))
  | none => return ()

/-- Executes a command line and tells the operator of the failure that it ends with. -/
def run (s : Surroundings) (o : Options) : Session Execution := do
  let execution ← execute s o
  if let .error f := execution.result then showFailure f
  return execution

end Rollout.CommandLine
