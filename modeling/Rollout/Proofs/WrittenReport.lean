import Rollout.Proofs.DryRun
import Rollout.Proofs.ReportContent

/-!
# The report that is written

Where the operator wants a report, a command line that names a command ends with one, whatever it
comes to. Such a report is finished in one of two places: by the pipeline, behind the last stage that
it came to, or behind a command line that never came to its pipeline, since the settings or the
environment could not be loaded. This file says that the two agree.

* There is one report, it names the command that was resolved, and it says of the result what the
  result is, down to the failure (`Rollout.Report.Concludes`).
* It is that report which is written, and no other file is touched. Who reads the file finds an
  object of Json that tells the same (`Rollout.Json.Tells`): not only the report agrees with the
  result, but what is left of it on the disk.
* A report that cannot be written is one warning more. Neither the result nor the commands tell the
  run from one without a report.

What a pipeline leaves behind is finished (`Rollout.Report.concludes_run`), all else is as it began
(`Rollout.CommandLine.runGoal_closes`), and a report is finished only where it is not yet
(`Rollout.CommandLine.concludes_finished`). The main statement is
`Rollout.CommandLine.written_of_resolved`.
-/

namespace Rollout

/-! ### Reports that agree with a result -/

/-- **A report that agrees with the result** of a command line for some goal. -/
structure Report.Concludes (goal : Goal) (result : Except Failure Unit) (r : Report) : Prop where
  command : r.command = goal.token
  finished : r.finishedAt.isSome
  success_iff : r.success = true ↔ result = .ok ()
  error_iff : r.error = none ↔ result = .ok ()
  failure : ∀ f, result = .error f → ∃ e, r.error = some e ∧ e.TellsOf f

namespace Report

variable {goal : Goal} {r : Report}

/-- **Finishing a report** with a failure, or without one, makes it agree with the result that is
returned. -/
theorem concludes_finish (h : r.command = goal.token) (now : Timestamp) (failure : Option Failure) :
    (r.finish now failure).Concludes goal (Pipeline.outcomeOf failure) := by
  cases failure with
  | none => exact ⟨h, rfl, ⟨fun _ => rfl, fun _ => rfl⟩, ⟨fun _ => rfl, fun _ => rfl⟩, nofun⟩
  | some f =>
    refine ⟨h, rfl, ⟨nofun, nofun⟩, ⟨nofun, nofun⟩, fun g hg => ?_⟩
    obtain rfl := Except.error.inj hg
    exact ⟨_, rfl, rfl, rfl, rfl, rfl, rfl⟩

/-- **The object of a report tells of the run** that the report agrees with. -/
theorem Concludes.tells {result : Except Failure Unit} (h : r.Concludes goal result) :
    r.toJson.Tells goal result := by
  obtain ⟨time, htime⟩ := Option.isSome_iff_exists.mp h.finished
  refine ⟨?_, ⟨time.text, ?_⟩, fun hok => ⟨?_, fun value => ?_⟩, fun f hf => ⟨?_, ?_⟩⟩
  · exact has_toJson.mpr (by simp [reportFields, h.command])
  · exact has_toJson.mpr (by simp [reportFields, htime, timeJson, Json.ofText?])
  · exact has_toJson.mpr (by simp [reportFields, h.success_iff.mpr hok])
  · rw [has_toJson, reportFields, h.error_iff.mpr hok]
    simp
  · have hfailed : r.success = false := by
      simp [← Bool.not_eq_true, h.success_iff, hf]
    exact has_toJson.mpr (by simp [reportFields, hfailed])
  · obtain ⟨e, he, htells⟩ := h.failure f hf
    exact ⟨_, has_toJson.mpr (by simp [reportFields, he]), tellsFailure_toJson htells⟩

/-- **A pipeline finishes the report** with the result that it returns. -/
theorem concludes_run (p : Pipeline) (plan : Plan) (runner : Runner) (past : List Event)
    (h : r.command = goal.token) :
    ((p.run plan r).result runner past).1.Concludes goal ((p.run plan r).result runner past).2 := by
  have hcommand : (r.addAll (p.recordsOf runner plan.stages (p.visits plan runner past))).command =
      goal.token := h
  rw [Pipeline.result_run]
  exact concludes_finish hcommand _ _

end Report

namespace CommandLine

variable {s : Surroundings} {o : Options} {goal : Goal} {unknown : Option String}
  {runner : Runner} {past : List Event} {path : String}

/-! ### Where a report is finished -/

variable (s o runner past) in
/-- **A report is finished or as it began**, behind the plan of a goal. -/
theorem runGoal_closes {r : Report} (h : r.command = goal.token) :
    ((runGoal s o goal r).result runner past).1 = r ∨
      ((runGoal s o goal r).result runner past).1.Concludes goal
        ((runGoal s o goal r).result runner past).2 := by
  unfold runGoal
  cases prepare s o goal with
  | error f => exact .inl rfl
  | ok p =>
    by_cases hdry : o.dryRun = true
    · simp only [hdry, if_true]
      exact .inl rfl
    · simp only [hdry]
      exact .inr (Report.concludes_run _ p.plan runner past h)

theorem outcomeOf_failure? (result : Except Failure Unit) :
    Pipeline.outcomeOf (failure? result) = result := by
  cases result <;> rfl

variable (runner past) in
/-- **A report is finished once**: where that has not been done, it is done with the result. -/
theorem concludes_finished {r : Report} {result : Except Failure Unit}
    (h : (r.command = goal.token ∧ r.finishedAt = none) ∨ r.Concludes goal result) :
    ((finished r result).result runner past).Concludes goal result := by
  unfold finished
  rcases h with ⟨hcommand, hunfinished⟩ | hconcludes
  · have hconcludes := Report.concludes_finish hcommand (.afterEpoch (timeOf past)) (failure? result)
    rw [outcomeOf_failure?] at hconcludes
    rw [hunfinished]
    exact hconcludes
  · rw [if_pos hconcludes.finished]
    exact hconcludes

/-! ### What is done with it -/

/-- The same options without a report. -/
abbrev Options.unreported (o : Options) : Options := { o with report := .none }

/-- **What a command line does with its report** at some path, given what comes of it and what comes
of the same command line without a report. -/
structure Written (files : Files) (goal : Goal) (path : String) (x bare : Execution)
    (events bareEvents : List Event) : Prop where
  /-- There is a report, and it agrees with the result. -/
  report : ∃ r, x.report = some r ∧ r.Concludes goal x.result
  /-- Where the path can be written, the file holds the text of the report, and that is the text of an
  object that tells of the run. Nothing else is written, and the operator is told so. -/
  written : ∀ names, files.target? path = some names →
    (∃ r j, x.report = some r ∧ x.files.content? names = some (.text r.text) ∧
      Json.parse r.text = .ok j ∧ j.Tells goal x.result) ∧
      (∀ other, other ≠ names → x.files.content? other = files.content? other) ∧
      events = bareEvents ++ [.shown (.info ("Run report written to " ++ path))]
  /-- Where it cannot, one warning is all that comes of it. -/
  unwritten : files.target? path = none → x.files = files ∧
    events = bareEvents ++
      [.shown (.warning ("[E9003] Pipeline error: Cannot write run report to " ++ path))]
  /-- The result is the same without a report, -/
  result : x.result = bare.result
  /-- and so are the commands. -/
  commands : commandsOf events = commandsOf bareEvents

theorem Written.prefixed {files : Files} {x bare : Execution} {events bareEvents : List Event}
    (h : Written files goal path x bare events bareEvents) (front : List Event) :
    Written files goal path x bare (front ++ events) (front ++ bareEvents) where
  report := h.report
  written names hnames := by
    obtain ⟨hholds, hother, hevents⟩ := h.written names hnames
    exact ⟨hholds, hother, by rw [hevents, List.append_assoc]⟩
  unwritten hnone := by
    obtain ⟨hfiles, hevents⟩ := h.unwritten hnone
    exact ⟨hfiles, by rw [hevents, List.append_assoc]⟩
  result := h.result
  commands := by rw [commandsOf_append, commandsOf_append, h.commands]

variable (runner past) in
theorem writeReport_of_target {files : Files} {names : List String}
    (h : files.target? path = some names) (r : Report) :
    (writeReport files r path).result runner past = files.put names (.text r.text) ∧
      (writeReport files r path).events runner past =
        [.shown (.info ("Run report written to " ++ path))] := by
  rw [writeReport, Files.write?, h]
  exact ⟨rfl, rfl⟩

theorem text_reportFailure (path : String) : (reportFailure path).text =
    "[E9003] Pipeline error: Cannot write run report to " ++ path := by
  have hcode : Duration.padded 4 FailureCode.reportWrite.toNat = "9003" := by decide
  have htext : (reportFailure path).text = "[E" ++ Duration.padded 4 FailureCode.reportWrite.toNat ++
      "] " ++ "Pipeline" ++ " error: " ++ ("Cannot write run report to " ++ path) := rfl
  rw [htext, hcode, ← String.append_assoc]
  rfl

variable (runner past) in
theorem writeReport_of_no_target {files : Files} (h : files.target? path = none) (r : Report) :
    (writeReport files r path).result runner past = files ∧
      (writeReport files r path).events runner past =
        [.shown (.warning ("[E9003] Pipeline error: Cannot write run report to " ++ path))] := by
  rw [writeReport, Files.write?, h, ← text_reportFailure]
  exact ⟨rfl, rfl⟩

/-- **What is done with a report behind the plan**, which has finished it or has not begun to. -/
theorem written_conclude {r : Report} {result : Except Failure Unit} (hpath : o.report = some path)
    (hdry : o.dryRun = false)
    (hr : (r.command = goal.token ∧ r.finishedAt = none) ∨ r.Concludes goal result) :
    Written s.files goal path ((conclude s o r result).result runner past)
      ((conclude s o.unreported r result).result runner past)
      ((conclude s o r result).events runner past)
      ((conclude s o.unreported r result).events runner past) := by
  let r' := (finished r result).result runner past
  -- nothing is shown while the report is finished, so the writing is all that happens
  have hquiet : (finished r result).events runner past = [] := (finished_spec runner past r result).2
  have hclosing : conclude s o r result = finished r result >>= fun r => do
      return ⟨result, some r, ← writeReport s.files r path⟩ := by
    rw [conclude, hpath, hdry]
  have hend : (conclude s o r result).result runner past =
      ⟨result, some r', (writeReport s.files r' path).result runner past⟩ := by
    simp [hclosing, hquiet, r']
  have hevents : (conclude s o r result).events runner past =
      (writeReport s.files r' path).events runner past := by
    simp [hclosing, hquiet, r']
  have hbare : conclude s o.unreported r result = pure ⟨result, some r, s.files⟩ := rfl
  rw [hend, hevents, hbare, Session.result_pure, Session.events_pure]
  have hconcludes : r'.Concludes goal result := concludes_finished runner past hr
  refine ⟨⟨r', rfl, hconcludes⟩, fun names hnames => ?_, fun hnone => ?_, rfl,
    commandsOf_writeReport s.files r' path⟩
  · obtain ⟨hfiles, hshown⟩ := writeReport_of_target runner past hnames r'
    rw [hfiles, hshown]
    exact ⟨⟨r', r'.toJson, rfl, Files.content?_put_self .., r'.parse_text, hconcludes.tells⟩,
      fun _ hother => Files.content?_put_of_ne hother _ _, rfl⟩
  · obtain ⟨hfiles, hshown⟩ := writeReport_of_no_target runner past hnone r'
    exact ⟨hfiles, hshown⟩

/-- **What becomes of the report of a command line** whose command is resolved, whatever the
operator asks for besides, what the program finds when it starts, and what answers the commands. -/
theorem written_of_resolved (hgoal : Goal.resolve o.command o.strict = .ok (goal, unknown))
    (hpath : o.report = some path) (hdry : o.dryRun = false) (s : Surroundings) (runner : Runner)
    (past : List Event) :
    Written s.files goal path ((execute s o).result runner past)
      ((execute s o.unreported).result runner past) ((execute s o).events runner past)
      ((execute s o.unreported).events runner past) := by
  obtain ⟨hend, hevents⟩ := execute_eq_body s o runner past hgoal
  obtain ⟨hend', hevents'⟩ := execute_eq_body s o.unreported runner past hgoal
  -- no plan looks at where its report is to go
  have hbody : bodyOf s o.unreported = bodyOf s o := rfl
  rw [hbody] at hend' hevents'
  rw [hend, hevents, hend', hevents']
  refine ((written_conclude hpath hdry ?_).prefixed _).prefixed _
  let began := Report.begin goal.token (.afterEpoch (timeOf (pastAtPlan unknown past)))
  have hcommand : began.command = goal.token := rfl
  rcases runGoal_closes s o runner (pastAtPlan unknown past) hcommand with hbegan | hconcludes
  · left
    rw [bodyOf, hbegan]
    exact ⟨rfl, rfl⟩
  · exact .inr hconcludes

/-! ### A run without settings -/

/-- Options that ask for a report, and for settings where there is a directory. -/
def reportOptions : Options :=
  { Options.none with command := some "check", settings := some ".", report := some "run" }

/-- A working directory that holds nothing, and an environment that defines nothing. -/
def bareSurroundings : Surroundings := ⟨.empty, .ofReadings []⟩

/-- What the run without settings fails with. -/
def unreadableSettings : Failure :=
  (Settings.failure "Cannot read settings file .").withCauses ["no such file, or not a text"]

/-- A host on which every command succeeds and says nothing. -/
def mutedHost : Runner := fun _ _ => .ok ⟨.success, "", "", .zero⟩

/-- A run that finds no settings leaves a report of that failure. -/
theorem written_unreadable_settings :
    Goal.resolve reportOptions.command reportOptions.strict = .ok (.check, none) ∧
      reportOptions.report = some "run" ∧ reportOptions.dryRun = false ∧
      ∃ (r : Report) (j e : Json),
        ((execute bareSurroundings reportOptions).result mutedHost []).files.content? ["run"] =
          some (.text r.text) ∧ Json.parse r.text = .ok j ∧ Json.Has "command" (.text "check") j ∧
          Json.Has "success" (.bool false) j ∧ Json.Has "error" e j ∧
          Json.Has "code" (.int 1005) e ∧ Json.Has "exit_code" (.int 2) e ∧
          Json.Has "message"
            (.text "[E1005] Configuration error: Cannot read settings file .") e := by
  have hgoal : Goal.resolve reportOptions.command reportOptions.strict = .ok (.check, none) := by
    rfl
  have hwritten := written_of_resolved hgoal rfl rfl bareSurroundings mutedHost []
  have htarget : bareSurroundings.files.target? "run" = some ["run"] := by decide
  have herror : ((execute bareSurroundings reportOptions).result mutedHost []).result =
      .error unreadableSettings := rfl
  have htext : unreadableSettings.text =
      "[E1005] Configuration error: Cannot read settings file ." := by decide
  obtain ⟨⟨r, j, -, hcontent, hparse, htells⟩, -, -⟩ := hwritten.written _ htarget
  obtain ⟨hsuccess, e, he, hfailure⟩ := htells.failed _ herror
  exact ⟨hgoal, rfl, rfl, r, j, e, hcontent, hparse, htells.command, hsuccess, he, hfailure.code,
    hfailure.exitStatus, htext ▸ hfailure.message⟩

end CommandLine

end Rollout
