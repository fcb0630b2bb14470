import Rollout.Report.Decode
import Rollout.Report.Encode
import Rollout.Proofs.ShapedText
import Rollout.Proofs.TimestampText
import Rollout.Proofs.WrittenReport

/-!
# Reading a report that was written

A report is written to be read by others, and what they read is all that the run had to report: no
character of a text is lost on the way, no field that was left out comes back as another, and no
number or time is rounded.

* A record is written as an object of those of its fields that have a value. Each of them is asked
  for by its reader, as a whole or along a shape of its own (`Rollout.Json.Along`), so nothing that
  is written is passed over.
* A field that was left out is read as the value for which it was left out: an empty list, or
  nothing.
* Of the values only the times are not free: a time has to be a point in time to be read at all
  (`Rollout.Report.Dated`).

The text in between is the business of `Rollout.Json.shaped?_pretty`. The main statement is
`Rollout.Report.recovered_of_dated`.
-/

namespace Rollout

/-! ### Records -/

namespace Json

/-- **Fields that are written along some shapes**: one under each name, whose value, if it has one,
fits the shape. -/
def Along : List (String × Shape) → List (String × Option Json) → Prop :=
  List.Forall₂ fun asked field => field.1 = asked.1 ∧ ∀ j ∈ field.2, Fits asked.2 j

variable {shapes : List (String × Shape)} {fields : List (String × Option Json)} {name : String}

/-- Where no name occurs twice, a field is found if it has a value. -/
theorem lookup_present (h : (fields.map Prod.fst).Nodup) (name : String) :
    (present fields).lookup name = (fields.lookup name).join := by
  induction fields with
  | nil => rfl
  | cons field fields ih =>
    obtain ⟨hfresh, hrest⟩ := List.nodup_cons.mp h
    obtain ⟨other, _ | j⟩ := field
    · -- a field without a value is left out, and no other field has its name
      have hskip : present ((other, none) :: fields) = present fields := rfl
      rw [hskip, ih hrest, List.lookup_cons]
      by_cases hname : name = other
      · subst hname
        have hnone : fields.lookup name = none :=
          List.lookup_eq_none_iff.mpr fun field hfield => bne_iff_ne.mpr fun heq =>
            hfresh (List.mem_map.mpr ⟨field, hfield, heq.symm⟩)
        rw [hnone, beq_self_eq_true]
        rfl
      · rw [beq_false_of_ne hname]
    · have hkeep : present ((other, some j) :: fields) = (other, j) :: present fields := rfl
      rw [hkeep, List.lookup_cons, List.lookup_cons, ih hrest]
      cases name == other <;> rfl

theorem Along.names_eq (h : Along shapes fields) : fields.map Prod.fst = shapes.map Prod.fst := by
  induction h with
  | nil => rfl
  | cons hfield _ ih => rw [List.map_cons, List.map_cons, hfield.1, ih]

/-- Where no name is asked for twice, each field is found with its shape. -/
theorem Along.lookup (h : Along shapes fields) (hdistinct : (shapes.map Prod.fst).Nodup) :
    ∀ field ∈ fields, ∃ shape, shapes.lookup field.1 = some shape ∧
      ∀ j ∈ field.2, Fits shape j := by
  induction h with
  | nil => exact nofun
  | @cons asked field shapes fields hfield hrest ih =>
    obtain ⟨hfresh, hdistinct⟩ := List.nodup_cons.mp hdistinct
    rintro other hother
    rcases List.mem_cons.mp hother with rfl | hmem
    · refine ⟨asked.2, ?_, hfield.2⟩
      rw [hfield.1]
      exact List.lookup_cons_self
    · obtain ⟨shape, hshape, hfits⟩ := ih hdistinct other hmem
      have hne : other.1 ≠ asked.1 := by
        intro heq
        rw [← Along.names_eq hrest, ← heq] at hfresh
        exact hfresh (List.mem_map_of_mem hmem)
      refine ⟨shape, ?_, hfits⟩
      rw [List.lookup_cons, beq_false_of_ne hne]
      exact hshape

theorem Along.fits_compact (h : Along shapes fields) (hdistinct : (shapes.map Prod.fst).Nodup) :
    Fits (.record shapes) (compact fields) := by
  refine .record (fun field hfield => ?_) fun field hfield shape hshape => ?_
  · obtain ⟨shape, hshape, -⟩ := h.lookup hdistinct _ (mem_present.mp hfield)
    exact Option.isSome_iff_exists.mpr ⟨shape, hshape⟩
  · -- the shape that the reader finds under the name is the one that the field was written for
    obtain ⟨shape', hshape', hfits⟩ := h.lookup hdistinct _ (mem_present.mp hfield)
    obtain rfl := Option.some.inj (hshape.symm.trans hshape')
    exact hfits _ rfl

end Json

namespace Report

open Json (Along present)

variable {shapes : Shapes} {fields : List (String × Option Json)} {name : String}

/-! ### Values -/

theorem mapM_map_of_read {α β : Type} {write : α → β} {read : β → Option α} {xs : List α}
    (h : ∀ x ∈ xs, read (write x) = some x) : (xs.map write).mapM read = some xs := by
  induction xs with
  | nil => rfl
  | cons x xs ih =>
    rw [List.map_cons, List.mapM_cons, h x List.mem_cons_self,
      ih fun y hy => h y (List.mem_cons_of_mem x hy)]
    rfl

theorem code?_int (c : UInt16) : code? (.int c.toNat) = some c := by
  have hlt := c.toNat_lt
  have hheld : Bits.holds 16 c.toNat = true := Bits.holds_iff.mpr (by omega)
  simp [code?, int?, hheld]

theorem exitStatus?_int (e : Int32) : exitStatus? (.int e.toInt) = some e := by
  have hle := e.le_toInt
  have hlt := e.toInt_lt
  have hheld : Bits.holdsSigned 32 e.toInt = true := Bits.holdsSigned_iff.mpr (by omega)
  simp [exitStatus?, int?, hheld]

theorem millis?_int (d : UInt64) : millis? (.int d.toNat) = some d := by
  have hlt := d.toNat_lt
  have hheld : Bits.holds 64 d.toNat = true := Bits.holds_iff.mpr (by omega)
  simp [millis?, int?, hheld]

theorem time?_text {t : Timestamp} (h : t.IsPoint) : time? (.text t.text) = some t := by
  rw [time?, Json.text?, Option.bind_some, Timestamp.parse?_text h]

/-! ### Fields -/

/-- **A record is read again** as the fields that have a value. -/
theorem record?_compact (h : Along shapes fields) (hdistinct : (shapes.map Prod.fst).Nodup)
    (least : Nat) : record? shapes least (.compact fields) = some (present fields) := by
  let known := (present fields).filter fun field => (shapes.lookup field.1).isSome
  have hread : record? shapes least (.compact fields) =
      if (known.map Prod.fst).Nodup then some known else none := rfl
  have hknown : known = present fields := by
    refine List.filter_eq_self.mpr fun field hfield => ?_
    obtain ⟨shape, hshape, -⟩ := h.lookup hdistinct _ (Json.mem_present.mp hfield)
    exact Option.isSome_iff_exists.mpr ⟨shape, hshape⟩
  have hnodup : ((present fields).map Prod.fst).Nodup :=
    (Json.names_present_sublist fields).nodup (h.names_eq ▸ hdistinct)
  rw [hread, hknown, if_pos hnodup]

section Fields

variable {α : Type} {read : Json → Option α} {write : α → Json} {j : Json}
  (hnodup : (fields.map Prod.fst).Nodup)

include hnodup

/-- A field that has a value is read as that. -/
theorem field?_present (h : fields.lookup name = some (some j)) :
    field? (present fields) name read = read j := by
  rw [field?, Json.lookup_present hnodup, h]
  rfl

/-- A value that may be missing is read again, be it there or not. -/
theorem option?_present {a : Option α} (h : fields.lookup name = some (a.map write))
    (hread : ∀ x ∈ a, write x ≠ .null ∧ read (write x) = some x) :
    option? (present fields) name read = some a := by
  rw [option?, Json.lookup_present hnodup, h]
  cases a with
  | none => rfl
  | some x =>
    obtain ⟨hnull, hx⟩ := hread x rfl
    simp [hx]

/-- A time that may be null is read again, be it null or not. -/
theorem option?_time {t : Option Timestamp} (h : fields.lookup name = some (some (timeJson t)))
    (ht : ∀ x ∈ t, x.IsPoint) : option? (present fields) name time? = some t := by
  rw [option?, Json.lookup_present hnodup, h]
  cases t with
  | none => rfl
  | some x =>
    simp [timeJson, Json.ofText?, time?_text (ht x rfl)]

/-- A list that may be left out is read again, be it empty or not. -/
theorem texts?_present {items : List String} (h : fields.lookup name = some (someTexts? items)) :
    texts? (present fields) name = some items := by
  rw [texts?, Json.lookup_present hnodup, h, someTexts?]
  split_ifs with hempty
  · rw [List.isEmpty_iff.mp hempty]
    rfl
  · exact mapM_map_of_read fun _ _ => rfl

end Fields

/-! ### What is asked for as a whole -/

open Json (Plain Fits)

theorem fits_whole {value : Option Json} (h : ∀ j ∈ value, Plain Json.maxDepth j) :
    ∀ j ∈ value, Fits .whole j :=
  fun j hj => .whole (h j hj)

theorem fits_there {j : Json} (h : Plain Json.maxDepth j) : ∀ k ∈ some j, Fits .whole k :=
  fits_whole (Json.plain_some h)

/-! ### Stages and failures -/

theorem along_stageFields (r : StageRecord) : Along stageShapes (stageFields r) :=
  .cons ⟨rfl, fits_there (.text _)⟩ <| .cons ⟨rfl, fits_there (.text _)⟩ <|
    .cons ⟨rfl, fits_there (Json.plain_time _)⟩ <| .cons ⟨rfl, fits_there (Json.plain_millis _)⟩ <|
    .cons ⟨rfl, fits_whole (Json.plain_texts? _)⟩ <|
    .cons ⟨rfl, fits_whole (Json.plain_texts? _)⟩ <|
    .cons ⟨rfl, fits_whole (Json.plain_text? _)⟩ .nil

/-- **The record of a stage is read again.** -/
theorem stageRecord?_toJson {r : StageRecord} (h : ∀ t ∈ r.startedAt, t.IsPoint) :
    stageRecord? r.toJson = some r := by
  have hnodup := nodup_stageFields r
  have hrecord : record? stageShapes 4 r.toJson = some (present (stageFields r)) :=
    record?_compact (along_stageFields r) (by decide) 4
  -- every field is read on its own, from those that have a value
  have hstage : field? (present (stageFields r)) "stage" (Json.choice? StageId.ofName?) =
      some r.stage := by
    rw [field?_present hnodup rfl]
    exact StageId.ofName?_name r.stage
  have hstatus : field? (present (stageFields r)) "status" (Json.choice? StageStatus.ofName?) =
      some r.status := by
    rw [field?_present hnodup rfl]
    exact StageStatus.ofName?_name r.status
  have hstarted : option? (present (stageFields r)) "started_at" time? = some r.startedAt :=
    option?_time hnodup rfl h
  have hduration : field? (present (stageFields r)) "duration_ms" millis? = some r.durationMs := by
    rw [field?_present hnodup rfl, millis?_int]
  have hwarnings : texts? (present (stageFields r)) "warnings" = some r.warnings :=
    texts?_present hnodup rfl
  have hnotes : texts? (present (stageFields r)) "notes" = some r.notes :=
    texts?_present hnodup rfl
  have herror : option? (present (stageFields r)) "error" Json.text? = some r.error :=
    option?_present hnodup rfl fun s _ => ⟨nofun, rfl⟩
  rw [stageRecord?, hrecord, Option.bind_eq_bind, Option.bind_some]
  simp only [hstage, hstatus, hstarted, hduration, hwarnings, hnotes, herror,
    Option.bind_eq_bind, Option.bind_some]
  rfl

theorem along_errorFields (e : ReportError) : Along errorShapes (errorFields e) :=
  .cons ⟨rfl, fits_there (Json.plain_code _)⟩ <|
    .cons ⟨rfl, fits_there (Json.plain_exitStatus _)⟩ <| .cons ⟨rfl, fits_there (.text _)⟩ <|
    .cons ⟨rfl, fits_there (.text _)⟩ <| .cons ⟨rfl, fits_whole (Json.plain_text? _)⟩ .nil

/-- **A reported failure is read again.** -/
theorem reportError?_toJson (e : ReportError) : reportError? e.toJson = some e := by
  have hnodup := nodup_errorFields e
  have hrecord : record? errorShapes 4 e.toJson = some (present (errorFields e)) :=
    record?_compact (along_errorFields e) (by decide) 4
  have hcode : field? (present (errorFields e)) "code" code? = some e.code := by
    rw [field?_present hnodup rfl, code?_int]
  have hstatus : field? (present (errorFields e)) "exit_code" exitStatus? = some e.exitStatus := by
    rw [field?_present hnodup rfl, exitStatus?_int]
  have hdescription : field? (present (errorFields e)) "description" Json.text? =
      some e.description := by
    rw [field?_present hnodup rfl, Json.text?]
  have hmessage : field? (present (errorFields e)) "message" Json.text? = some e.message := by
    rw [field?_present hnodup rfl, Json.text?]
  have hremediation : option? (present (errorFields e)) "remediation" Json.text? =
      some e.remediation :=
    option?_present hnodup rfl fun s _ => ⟨nofun, rfl⟩
  rw [reportError?, hrecord, Option.bind_eq_bind, Option.bind_some]
  simp only [hcode, hstatus, hdescription, hmessage, hremediation,
    Option.bind_eq_bind, Option.bind_some]
  rfl

/-! ### Reports -/

/-- **A report of points in time**: each of its times is one. -/
structure Dated (r : Report) : Prop where
  started : r.startedAt.IsPoint
  finished : ∀ t ∈ r.finishedAt, t.IsPoint
  stages : ∀ record ∈ r.stages, ∀ t ∈ record.startedAt, t.IsPoint

theorem along_reportFields (r : Report) : Along reportShapes (reportFields r) := by
  have hstages : ∀ j ∈ some (Json.list (r.stages.map StageRecord.toJson)),
      Fits (.each (.record stageShapes)) j := by
    rintro _ ⟨⟩
    refine .each fun j hj => ?_
    obtain ⟨record, -, rfl⟩ := List.mem_map.mp hj
    exact (along_stageFields record).fits_compact (by decide)
  have herror : ∀ j ∈ r.error.map ReportError.toJson, Fits (.record errorShapes) j := by
    intro j hj
    obtain ⟨e, -, rfl⟩ := Option.map_eq_some_iff.mp hj
    exact (along_errorFields e).fits_compact (by decide)
  exact .cons ⟨rfl, fits_there (.text _)⟩ <| .cons ⟨rfl, fits_there (Json.plain_time _)⟩ <|
    .cons ⟨rfl, fits_there (Json.plain_time _)⟩ <| .cons ⟨rfl, fits_there (.bool _)⟩ <|
    .cons ⟨rfl, hstages⟩ <| .cons ⟨rfl, herror⟩ .nil

/-- **A report is read again** from its value. -/
theorem ofJson?_toJson {r : Report} (h : r.Dated) : ofJson? r.toJson = some r := by
  have hnodup := nodup_reportFields r
  have hrecord : record? reportShapes 5 r.toJson = some (present (reportFields r)) :=
    record?_compact (along_reportFields r) (by decide) 5
  have hcommand : field? (present (reportFields r)) "command" Json.text? = some r.command := by
    rw [field?_present hnodup rfl, Json.text?]
  have hstarted : field? (present (reportFields r)) "started_at" time? = some r.startedAt := by
    rw [field?_present hnodup rfl]
    exact time?_text h.started
  have hfinished : option? (present (reportFields r)) "finished_at" time? = some r.finishedAt :=
    option?_time hnodup rfl h.finished
  have hsuccess : field? (present (reportFields r)) "success" bool? = some r.success := by
    rw [field?_present hnodup rfl, bool?]
  have hstages : field? (present (reportFields r)) "stages"
      (fun j => j.items?.bind fun items => items.mapM stageRecord?) = some r.stages := by
    rw [field?_present hnodup rfl]
    exact mapM_map_of_read fun record hrecord => stageRecord?_toJson (h.stages record hrecord)
  have herror : option? (present (reportFields r)) "error" reportError? = some r.error :=
    option?_present hnodup rfl fun e _ => ⟨nofun, reportError?_toJson e⟩
  rw [ofJson?, hrecord, Option.bind_eq_bind, Option.bind_some]
  simp only [hcommand, hstarted, hfinished, hsuccess, hstages, herror,
    Option.bind_eq_bind, Option.bind_some]
  rfl

/-- **A report is recovered from what is written of it**: a reader of the text has the report again,
and what reaches the file that the report is written to is that text. -/
theorem recovered_of_dated {r : Report} (h : r.Dated) :
    parse? r.text = some r ∧
      ∀ (files : Files) (path : String) (names : List String) (runner : Runner) (past : List Event),
        files.target? path = some names →
        ((((CommandLine.writeReport files r path).result runner past).content? names).bind
          Content.text?).bind parse? = some r := by
  -- the text holds no field but those that its reader asks for
  have hfits : Fits shape r.toJson := (along_reportFields r).fits_compact (by decide)
  have hread : parse? r.text = some r := by
    rw [parse?, text, Json.shaped?_pretty hfits, Option.bind_some, ofJson?_toJson h]
  refine ⟨hread, fun files path names runner past htarget => ?_⟩
  rw [(CommandLine.writeReport_of_target runner past htarget r).1, Files.content?_put_self,
    Option.bind_some, Content.text?, Option.bind_some, hread]

/-- A report at the edges of what one can hold: texts that have to be escaped or that stand for
themselves, the greatest and the least numbers, times with decimals and in a sixtieth second, and
fields that are left out. -/
def edgeReport : Report where
  command := "all \x22\\\x00\x1f\r\n\t\x7f é – 😀"
  startedAt := ⟨0, 2, 29, 0, 0, 0, 1⟩
  finishedAt := some ⟨9999, 12, 31, 23, 59, 60, 999000000⟩
  success := false
  stages :=
    [⟨.validate, .succeeded, some ⟨2024, 2, 29, 12, 30, 59, 120⟩, 18446744073709551615, ["", "\n"],
        [], none⟩,
      ⟨.baseApp, .failed, some ⟨1970, 1, 1, 0, 0, 0, 0⟩, 0, [], ["\\u0041"], some ""⟩,
      ⟨.agentSwarm, .notRun, none, 1, [], [], none⟩]
  error := some ⟨65535, -2147483648, "null", "[1, 2", none⟩

theorem dated_edgeReport : edgeReport.Dated where
  started := ⟨by decide, by decide, by decide, by decide, by decide⟩
  finished := by
    rintro _ ⟨⟩
    exact ⟨by decide, by decide, by decide, by decide, by decide⟩
  stages := by
    intro record hrecord
    simp only [edgeReport, List.mem_cons, List.not_mem_nil, or_false] at hrecord
    rcases hrecord with rfl | rfl | rfl
    · rintro _ ⟨⟩
      exact ⟨by decide, by decide, by decide, by decide, by decide⟩
    · rintro _ ⟨⟩
      exact ⟨by decide, by decide, by decide, by decide, by decide⟩
    · exact nofun

/-- A report at the edges is recovered from its file. -/
theorem recovered_edgeReport :
    edgeReport.Dated ∧ parse? edgeReport.text = some edgeReport ∧
      Files.empty.target? "run" = some ["run"] ∧
      ((((CommandLine.writeReport .empty edgeReport "run").result CommandLine.mutedHost
        []).content? ["run"]).bind Content.text?).bind parse? = some edgeReport := by
  have htarget : Files.empty.target? "run" = some ["run"] := by decide
  obtain ⟨hread, hfile⟩ := recovered_of_dated dated_edgeReport
  exact ⟨dated_edgeReport, hread, htarget, hfile _ _ _ _ _ htarget⟩

end Report

end Rollout
