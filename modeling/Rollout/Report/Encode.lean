import Rollout.Json.Printer
import Rollout.Report
import Rollout.Timestamp.Text

/-!
# Reports as Json

Each record becomes an object. Empty lists and what a run has no word for are left out, except for
the times: a time that is not there yet is null.
-/

namespace Rollout

/-- A list of texts, unless it is empty. -/
def someTexts? (items : List String) : Option Json :=
  if items.isEmpty then none else some (.texts items)

/-- A time, or null. -/
def timeJson (t : Option Timestamp) : Json := .ofText? (t.map Timestamp.text)

/-- A record as Json. -/
def StageRecord.toJson (r : StageRecord) : Json :=
  .compact [("stage", some (.text r.stage.name)), ("status", some (.text r.status.name)),
    ("started_at", some (timeJson r.startedAt)),
    ("duration_ms", some (.int r.durationMs.toNat)),
    ("warnings", someTexts? r.warnings), ("notes", someTexts? r.notes),
    ("error", r.error.map .text)]

/-- A reported failure as Json. -/
def ReportError.toJson (e : ReportError) : Json :=
  .compact [("code", some (.int e.code.toNat)), ("exit_code", some (.int e.exitStatus.toInt)),
    ("description", some (.text e.description)), ("message", some (.text e.message)),
    ("remediation", e.remediation.map .text)]

namespace Report

/-- A report as Json. -/
def toJson (r : Report) : Json :=
  .compact [("command", some (.text r.command)), ("started_at", some (timeJson r.startedAt)),
    ("finished_at", some (timeJson r.finishedAt)), ("success", some (.bool r.success)),
    ("stages", some (.list (r.stages.map StageRecord.toJson))),
    ("error", r.error.map ReportError.toJson)]

/-- A report as it is written to a file. -/
def text (r : Report) : String := r.toJson.pretty

end Report

end Rollout
