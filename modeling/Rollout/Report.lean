import Rollout.Failure
import Rollout.Stage.Id
import Rollout.Timestamp

/-!
# Run reports

A report has a record for each planned stage: that it succeeded, that it failed, or that it was never
begun since an earlier one failed. When the run is over the report is finished with its outcome.
-/

namespace Rollout

/-- What became of a stage. -/
inductive StageStatus
  | succeeded | failed
  /-- Planned, but not begun since an earlier stage failed. -/
  | notRun
  deriving DecidableEq, Repr

namespace StageStatus

def name : StageStatus → String
  | succeeded => "succeeded"
  | failed => "failed"
  | notRun => "not_run"

/-- The status of a name. -/
def ofName? (name : String) : Option StageStatus :=
  [succeeded, failed, notRun].find? fun status => status.name = name

theorem ofName?_name (status : StageStatus) : ofName? status.name = some status := by
  cases status <;> decide

end StageStatus

/-- What is reported of a stage. -/
structure StageRecord where
  stage : StageId
  status : StageStatus
  startedAt : Option Timestamp
  durationMs : UInt64
  warnings : List String
  notes : List String
  error : Option String
  deriving DecidableEq, Repr

namespace StageRecord

/-- The whole milliseconds of a duration, in 64 bits. -/
def wholeMillis (d : Duration) : UInt64 := UInt64.ofNat d.millis

def succeeded (stage : StageId) (startedAt : Timestamp) (took : Duration)
    (warnings notes : List String) : StageRecord :=
  ⟨stage, .succeeded, some startedAt, wholeMillis took, warnings, notes, none⟩

def failed (stage : StageId) (startedAt : Timestamp) (took : Duration) (error : String) :
    StageRecord :=
  ⟨stage, .failed, some startedAt, wholeMillis took, [], [], some error⟩

def notRun (stage : StageId) : StageRecord := ⟨stage, .notRun, none, 0, [], [], none⟩

end StageRecord

/-- What is reported of the failure of a run. -/
structure ReportError where
  code : UInt16
  exitStatus : Int32
  description : String
  message : String
  remediation : Option String
  deriving DecidableEq, Repr

/-- A failure as it is reported. -/
def ReportError.ofFailure (f : Failure) : ReportError :=
  ⟨f.code, f.exitStatus, FailureCode.describe f.code, f.text, f.remediation?⟩

/-- The report of a run. -/
structure Report where
  command : String
  startedAt : Timestamp
  finishedAt : Option Timestamp
  success : Bool
  stages : List StageRecord
  error : Option ReportError
  deriving DecidableEq, Repr

namespace Report

/-- The report of a run that has just begun. -/
def begin (command : String) (now : Timestamp) : Report := ⟨command, now, none, false, [], none⟩

/-- Adds a record. -/
def add (r : Report) (record : StageRecord) : Report := { r with stages := r.stages ++ [record] }

/-- Finishes the report with the outcome of the run. -/
def finish (r : Report) (now : Timestamp) (failure : Option Failure) : Report :=
  { r with
    finishedAt := some now
    success := failure.isNone
    error := failure.map ReportError.ofFailure }

/-- What became of a stage, if it was planned. -/
def statusOf? (r : Report) (stage : StageId) : Option StageStatus :=
  (r.stages.find? fun record => record.stage = stage).map StageRecord.status

/-- The stages that were begun. -/
def executed (r : Report) : List StageId :=
  (r.stages.filter fun record => record.status ≠ .notRun).map StageRecord.stage

@[simp] theorem stages_add (r : Report) (record : StageRecord) :
    (r.add record).stages = r.stages ++ [record] := rfl

@[simp] theorem stages_finish (r : Report) (now : Timestamp) (failure : Option Failure) :
    (r.finish now failure).stages = r.stages := rfl

end Report

end Rollout
