import Rollout.Report.Encode
import Rollout.Proofs.JsonText
import Rollout.Proofs.Lookups
import Rollout.Proofs.RunReport

/-!
# What the text of a report holds

Whoever opens the file of a report finds an object of Json in it, and asks that for fields by name.
This file says what they are told of a run (`Rollout.Json.Tells`), in terms of the command and of the
result and not of the report that the text was made from.

That there is an object to be read at all is `Rollout.Report.parse_text`: every number of a report is
held by 64 bits, and its objects and lists nest four deep (`Rollout.Report.plain_toJson`). What the
object has is what the report had a value for (`Rollout.Json.has_compact`).
-/

namespace Rollout

/-! ### What is told -/

namespace Json

/-- **An object tells of a failure**: by number and description, exit status and text, and what the
operator can do about it where there is something. -/
structure TellsFailure (f : Failure) (e : Json) : Prop where
  code : Has "code" (.int f.code.toNat) e
  description : Has "description" (.text (FailureCode.describe f.code)) e
  exitStatus : Has "exit_code" (.int f.exitStatus.toInt) e
  message : Has "message" (.text f.text) e
  remediation_iff : ∀ value, Has "remediation" value e ↔ ∃ r ∈ f.remediation?, value = .text r

/-- **An object tells of a run** that was to bring a goal about, and of its result. -/
structure Tells (goal : Goal) (result : Except Failure Unit) (j : Json) : Prop where
  command : Has "command" (.text goal.token) j
  finished : ∃ time, Has "finished_at" (.text time) j
  succeeded : result = .ok () → Has "success" (.bool true) j ∧ ∀ value, ¬Has "error" value j
  failed : ∀ f, result = .error f →
    Has "success" (.bool false) j ∧ ∃ e, Has "error" e j ∧ e.TellsFailure f

/-! ### Plain values -/

variable {depth : Nat} {fields : List (String × Option Json)}

theorem plain_compact (h : ∀ field ∈ fields, ∀ j ∈ field.2, Plain depth j) :
    Plain (depth + 1) (compact fields) :=
  .object fun _ hfield => h _ (mem_present.mp hfield) _ rfl

theorem plain_some {j : Json} (h : Plain depth j) : ∀ k ∈ some j, Plain depth k := by
  rintro _ ⟨⟩
  exact h

theorem plain_text? (s : Option String) : ∀ j ∈ s.map text, Plain depth j := by
  cases s with
  | none => exact nofun
  | some s => exact plain_some (.text s)

theorem plain_texts? (items : List String) : ∀ j ∈ someTexts? items, Plain (depth + 1) j := by
  rw [someTexts?]
  split_ifs
  · exact nofun
  · refine plain_some (.list fun j hj => ?_)
    obtain ⟨s, -, rfl⟩ := List.mem_map.mp hj
    exact .text s

theorem plain_time (t : Option Timestamp) : Plain depth (timeJson t) := by
  cases t with
  | none => exact .null
  | some t => exact .text t.text

theorem plain_code (c : UInt16) : Plain depth (.int c.toNat) := by
  have hlt := c.toNat_lt
  exact .int (Bits.holdsEither_64_iff.mpr (by omega))

theorem plain_exitStatus (e : Int32) : Plain depth (.int e.toInt) := by
  have hle := e.le_toInt
  have hlt := e.toInt_lt
  exact .int (Bits.holdsEither_64_iff.mpr (by omega))

theorem plain_millis (d : UInt64) : Plain depth (.int d.toNat) := by
  have hlt := d.toNat_lt
  exact .int (Bits.holdsEither_64_iff.mpr (by omega))

end Json

namespace Report

/-! ### Fields -/

/-- The fields of the record of a stage as they are written. -/
def stageFields (r : StageRecord) : List (String × Option Json) :=
  [("stage", some (.text r.stage.name)), ("status", some (.text r.status.name)),
    ("started_at", some (timeJson r.startedAt)),
    ("duration_ms", some (.int r.durationMs.toNat)),
    ("warnings", someTexts? r.warnings), ("notes", someTexts? r.notes),
    ("error", r.error.map .text)]

/-- The fields of a reported failure as they are written. -/
def errorFields (e : ReportError) : List (String × Option Json) :=
  [("code", some (.int e.code.toNat)), ("exit_code", some (.int e.exitStatus.toInt)),
    ("description", some (.text e.description)), ("message", some (.text e.message)),
    ("remediation", e.remediation.map .text)]

/-- The fields of a report as they are written. -/
def reportFields (r : Report) : List (String × Option Json) :=
  [("command", some (.text r.command)), ("started_at", some (timeJson r.startedAt)),
    ("finished_at", some (timeJson r.finishedAt)), ("success", some (.bool r.success)),
    ("stages", some (.list (r.stages.map StageRecord.toJson))),
    ("error", r.error.map ReportError.toJson)]

theorem nodup_stageFields (r : StageRecord) : ((stageFields r).map Prod.fst).Nodup := by
  simp [stageFields]

theorem nodup_errorFields (e : ReportError) : ((errorFields e).map Prod.fst).Nodup := by
  simp [errorFields]

theorem nodup_reportFields (r : Report) : ((reportFields r).map Prod.fst).Nodup := by
  simp [reportFields]

/-- A reported failure has the fields that are written of it. -/
theorem has_error {e : ReportError} {name : String} {value : Json} :
    Json.Has name value e.toJson ↔ (name, some value) ∈ errorFields e :=
  Json.has_compact (nodup_errorFields e)

/-- A report has the fields that are written of it. -/
theorem has_toJson {r : Report} {name : String} {value : Json} :
    Json.Has name value r.toJson ↔ (name, some value) ∈ reportFields r :=
  Json.has_compact (nodup_reportFields r)

/-- **A report of a failure tells of it.** -/
theorem tellsFailure_toJson {f : Failure} {e : ReportError} (h : e.TellsOf f) :
    e.toJson.TellsFailure f where
  code := has_error.mpr (by simp [errorFields, h.code])
  description := has_error.mpr (by simp [errorFields, h.description])
  exitStatus := has_error.mpr (by simp [errorFields, h.exitStatus])
  message := has_error.mpr (by simp [errorFields, h.message])
  remediation_iff value := by
    rw [has_error, errorFields, h.remediation]
    cases f.remediation? <;> simp [eq_comm]

/-! ### Reading the text -/

open Json (Plain)

variable {depth : Nat}

theorem plain_record (r : StageRecord) : Plain (depth + 2) r.toJson := by
  refine Json.plain_compact ?_
  simp only [List.forall_mem_cons]
  exact ⟨Json.plain_some (.text _), Json.plain_some (.text _), Json.plain_some (Json.plain_time _),
    Json.plain_some (Json.plain_millis _), Json.plain_texts? _, Json.plain_texts? _,
    Json.plain_text? _, nofun⟩

theorem plain_error (e : ReportError) : Plain (depth + 1) e.toJson := by
  refine Json.plain_compact ?_
  simp only [List.forall_mem_cons]
  exact ⟨Json.plain_some (Json.plain_code _), Json.plain_some (Json.plain_exitStatus _),
    Json.plain_some (.text _), Json.plain_some (.text _), Json.plain_text? _, nofun⟩

theorem plain_toJson (r : Report) : Plain (depth + 4) r.toJson := by
  have hstages : Plain (depth + 3) (.list (r.stages.map StageRecord.toJson)) := by
    refine .list fun j hj => ?_
    obtain ⟨record, -, rfl⟩ := List.mem_map.mp hj
    exact plain_record record
  have herror : ∀ j ∈ r.error.map ReportError.toJson, Plain (depth + 3) j := by
    intro j hj
    obtain ⟨e, -, rfl⟩ := Option.map_eq_some_iff.mp hj
    exact plain_error e
  refine Json.plain_compact ?_
  simp only [List.forall_mem_cons]
  exact ⟨Json.plain_some (.text _), Json.plain_some (Json.plain_time _),
    Json.plain_some (Json.plain_time _), Json.plain_some (.bool _), Json.plain_some hstages, herror,
    nofun⟩

/-- **The text of a report is read again** as the object that it was made from. -/
theorem parse_text (r : Report) : Json.parse r.text = .ok r.toJson :=
  Json.parse_pretty r.plain_toJson

end Report

end Rollout
