import Rollout.Json.Shape
import Rollout.Report
import Rollout.Timestamp.Text

/-!
# Reports from Json

A record is an object of its fields, none of them twice, or a list of their values in order. Fields
that are left out when a report is written may be missing; other names than those of the fields
say nothing, and what stands under them is not looked at (`Report.shape`).
-/

namespace Rollout.Report

/-! ### Pieces -/

/-- The fields of a record, each with what is asked of it. -/
abbrev Shapes : Type := List (String × Json.Shape)

/-- The fields of a record of the given shapes, of which a list has to hold the first `least`. -/
def record? (shapes : Shapes) (least : Nat) : Json → Option (List (String × Json))
  | .object fields =>
    let known := fields.filter fun (name, _) => (shapes.lookup name).isSome
    if (known.map Prod.fst).Nodup then some known else none
  | .list items =>
    if least ≤ items.length ∧ items.length ≤ shapes.length then
      some ((shapes.map Prod.fst).zip items)
    else none
  | _ => none

/-- A field that has to be there. -/
def field? {α : Type} (fields : List (String × Json)) (name : String) (read : Json → Option α) :
    Option α :=
  (fields.lookup name).bind read

/-- A field that may be missing or null. -/
def option? {α : Type} (fields : List (String × Json)) (name : String) (read : Json → Option α) :
    Option (Option α) :=
  match fields.lookup name with
  | none | some .null => some none
  | some j => (read j).map some

/-- A list of texts that may be missing. -/
def texts? (fields : List (String × Json)) (name : String) : Option (List String) :=
  match fields.lookup name with
  | none => some []
  | some j => j.items?.bind fun items => items.mapM Json.text?

def bool? : Json → Option Bool
  | .bool b => some b
  | _ => none

/-- A whole number of a limited size. -/
def int? (isHeld : Int → Bool) : Json → Option Int
  | .int n => if isHeld n then some n else none
  | _ => none

def code? (j : Json) : Option UInt16 := (int? (Bits.holds 16) j).map fun n => .ofNat n.toNat

def exitStatus? (j : Json) : Option Int32 := (int? (Bits.holdsSigned 32) j).map .ofInt

def millis? (j : Json) : Option UInt64 := (int? (Bits.holds 64) j).map fun n => .ofNat n.toNat

def time? (j : Json) : Option Timestamp := j.text?.bind Timestamp.parse?

/-! ### Records -/

def stageShapes : Shapes :=
  [("stage", .whole), ("status", .whole), ("started_at", .whole), ("duration_ms", .whole),
    ("warnings", .whole), ("notes", .whole), ("error", .whole)]

def stageRecord? (j : Json) : Option StageRecord := do
  let fields ← record? stageShapes 4 j
  let stage ← field? fields "stage" (Json.choice? StageId.ofName?)
  let status ← field? fields "status" (Json.choice? StageStatus.ofName?)
  let startedAt ← option? fields "started_at" time?
  let durationMs ← field? fields "duration_ms" millis?
  let warnings ← texts? fields "warnings"
  let notes ← texts? fields "notes"
  let error ← option? fields "error" Json.text?
  return { stage, status, startedAt, durationMs, warnings, notes, error }

def errorShapes : Shapes :=
  [("code", .whole), ("exit_code", .whole), ("description", .whole), ("message", .whole),
    ("remediation", .whole)]

def reportError? (j : Json) : Option ReportError := do
  let fields ← record? errorShapes 4 j
  let code ← field? fields "code" code?
  let exitStatus ← field? fields "exit_code" exitStatus?
  let description ← field? fields "description" Json.text?
  let message ← field? fields "message" Json.text?
  let remediation ← option? fields "remediation" Json.text?
  return { code, exitStatus, description, message, remediation }

def reportShapes : Shapes :=
  [("command", .whole), ("started_at", .whole), ("finished_at", .whole), ("success", .whole),
    ("stages", .each (.record stageShapes)), ("error", .record errorShapes)]

/-- What a reader of a report asks for. -/
def shape : Json.Shape := .record reportShapes

/-- The report that an object describes. -/
def ofJson? (j : Json) : Option Report := do
  let fields ← record? reportShapes 5 j
  let command ← field? fields "command" Json.text?
  let startedAt ← field? fields "started_at" time?
  let finishedAt ← option? fields "finished_at" time?
  let success ← field? fields "success" bool?
  let stages ← field? fields "stages" fun j => j.items?.bind fun items => items.mapM stageRecord?
  let error ← option? fields "error" reportError?
  return { command, startedAt, finishedAt, success, stages, error }

/-- The report that a text spells. -/
def parse? (s : String) : Option Report := (Json.shaped? shape s).bind ofJson?

end Rollout.Report
