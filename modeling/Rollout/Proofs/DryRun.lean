import Rollout.CommandLine.Execution
import Rollout.Proofs.FirstCommand
import Rollout.Proofs.Listing

/-!
# What a dry run foretells

A dry run and a run come to their plan by the same way and part there: a dry run looks at the
configuration by itself, where the plan would make one, and describes the plan; a run has its first
stage look, and masks what that stage fails with. This file says that the two agree all the same.

* A dry run runs no command.
* It fails exactly where the run fails before its first command, and then the operator is told the
  same (`Rollout.Failure.ToldAlike`).
* Where it succeeds, its lines tell of the plan that is run, stage by stage with dependencies and
  conditions (`Rollout.Plan.Listed`), and the stages of that plan are those of the report.

That a run which gets past its configuration runs a command is `Rollout.run_of_valid`. The rest
follows the two ways through a command line (`Rollout.CommandLine.execute_eq_body`), which part at
`Rollout.CommandLine.runGoal`; a report that is written behind the run changes nothing
(`Rollout.CommandLine.conclude_spec`). The main statement is `Rollout.CommandLine.foretold_dryRun`.
-/

namespace Rollout

/-! ### Failures that are told alike -/

/-- **Two failures that the operator is told alike**: by code, text, exit status and remediation. -/
structure Failure.ToldAlike (f g : Failure) : Prop where
  code : f.code = g.code
  text : f.text = g.text
  exitStatus : f.exitStatus = g.exitStatus
  remediation : f.remediation? = g.remediation?

theorem Failure.ToldAlike.refl (f : Failure) : f.ToldAlike f := ⟨rfl, rfl, rfl, rfl⟩

/-- Before there is a configuration nothing is hidden; only the causes are joined to one. -/
theorem Failure.toldAlike_masked_none (f : Failure) :
    (f.masked (Context.mask none)).ToldAlike f := by
  obtain ⟨code, message, matter⟩ := f
  have hremediation : ∀ x : Option String, x.map (Context.mask none) = x :=
    fun _ => Option.map_id'
  cases matter <;> exact ⟨rfl, rfl, rfl, by
    simp only [remediation?, masked, Matter.masked, Matter.remediation?, hremediation]⟩

/-! ### Attempts that only show lines -/

namespace Attempt

variable {ε α β : Type} {a : Attempt ε α} {f : α → Attempt ε β} {before after : List Line} {x : α}
  {e : ε} {outcome : Except ε β}

/-- **An attempt that only shows lines**: which ones, and what it comes to, no answer decides. -/
def Shows (a : Attempt ε α) (lines : List Line) (outcome : Except ε α) : Prop :=
  ∀ runner past, a.result runner past = outcome ∧ a.events runner past = lines.map .shown

theorem shows_ofExcept (outcome : Except ε α) : (ofExcept outcome).Shows [] outcome :=
  fun _ _ => ⟨rfl, rfl⟩

theorem shows_display (l : Line) : (display l : Attempt ε Unit).Shows [l] (.ok ()) :=
  fun _ _ => ⟨rfl, rfl⟩

theorem Shows.bind (ha : a.Shows before (.ok x)) (hf : (f x).Shows after outcome) :
    (a >>= f).Shows (before ++ after) outcome := by
  intro runner past
  obtain ⟨hresult, hevents⟩ := ha runner past
  obtain ⟨hresult', hevents'⟩ := hf runner (past ++ a.events runner past)
  rw [result_bind_of_ok hresult, events_bind_of_ok hresult, hresult', hevents', hevents,
    List.map_append]
  exact ⟨rfl, rfl⟩

theorem Shows.bind_error (ha : a.Shows before (.error e)) (f : α → Attempt ε β) :
    (a >>= f).Shows before (.error e) := by
  intro runner past
  obtain ⟨hresult, hevents⟩ := ha runner past
  exact ⟨result_bind_of_error hresult f, (events_bind_of_error hresult f).trans hevents⟩

end Attempt

namespace CommandLine

open Attempt

/-! ### Dry runs -/

/-- The configuration that a plan makes, if it makes one. -/
def Preparation.configuration (p : Preparation) : Except Failure (Option Configuration) :=
  if p.plan.contains .validate then some <$> Configuration.validate p.environment else .ok none

/-- What is shown of a configuration. -/
def configurationLines (c : Configuration) : List Line :=
  .success "Configuration is valid" ::
    (c.shownEntries.map fun (name, value) => "  " ++ name ++ "=" ++ value).map .info

/-- What is shown behind a dry run, given the lines about its plan. -/
def planLines (lines : List String) : List Line :=
  lines.map .info ++ [.success "Dry run complete, no external commands were run"]

theorem shows_displayAll (texts : List String) :
    (displayAll texts).Shows (texts.map .info) (.ok ()) := by
  induction texts with
  | nil => exact shows_ofExcept (.ok ())
  | cons text rest ih => exact (shows_display (.info text)).bind ih

theorem shows_describeConfiguration {env : Environment} {c : Configuration}
    (h : Configuration.validate env = .ok c) :
    (describeConfiguration env).Shows (configurationLines c) (.ok ()) := by
  unfold describeConfiguration
  rw [h]
  exact (shows_ofExcept (.ok c)).bind ((shows_display _).bind (shows_displayAll _))

theorem Preparation.configuration_eq_error_iff {p : Preparation} {f : Failure} :
    p.configuration = .error f ↔
      p.plan.contains .validate = true ∧ Configuration.validate p.environment = .error f := by
  unfold Preparation.configuration
  split
  · cases Configuration.validate p.environment <;> simp [*, Functor.map, Except.map]
  · simp [*]

/-- A dry run behind the look at the configuration. -/
theorem shows_plan (plan : Plan) :
    (do displayAll plan.describe
        Attempt.display (.success "Dry run complete, no external commands were run") :
      Attempt Failure Unit).Shows (planLines plan.describe) (.ok ()) :=
  (shows_displayAll _).bind (shows_display _)

/-- **A dry run shows the configuration**, where the plan makes one, and the plan. -/
theorem shows_dryRun {p : Preparation} {c : Option Configuration} (h : p.configuration = .ok c) :
    (dryRun p).Shows (c.elim [] configurationLines ++ planLines p.plan.describe) (.ok ()) := by
  unfold Preparation.configuration at h
  unfold dryRun
  split at h
  · rw [if_pos ‹_›]
    cases hc : Configuration.validate p.environment with
    | ok c' =>
      rw [hc] at h
      obtain rfl := Except.ok.inj h
      exact (shows_describeConfiguration hc).bind (shows_plan p.plan)
    | error f =>
      rw [hc] at h
      cases h
  · rw [if_neg ‹_›]
    obtain rfl := Except.ok.inj h
    exact shows_plan p.plan

/-- **A dry run fails, and shows nothing**, where the configuration cannot be made. -/
theorem shows_dryRun_of_invalid {p : Preparation} {f : Failure} (h : p.configuration = .error f) :
    (dryRun p).Shows [] (.error f) := by
  obtain ⟨hcontains, hf⟩ := Preparation.configuration_eq_error_iff.mp h
  unfold dryRun
  rw [if_pos hcontains]
  refine Shows.bind_error ?_ _
  unfold describeConfiguration
  rw [hf]
  exact (shows_ofExcept (.error f)).bind_error _

/-! ### Command lines -/

section Execution

variable {s : Surroundings} {o : Options} {goal : Goal} {unknown : Option String}
  {runner : Runner} {past : List Event}

/-- What is shown of a token that names no command. -/
def unknownLines : Option String → List Line
  | some token => [.warning ("Unknown command '" ++ token ++
      "', running the full pipeline (use --strict to reject)")]
  | none => []

theorem events_warnUnknown (unknown : Option String) :
    (warnUnknown unknown).events runner past = (unknownLines unknown).map .shown := by
  cases unknown <;> rfl

theorem commandsOf_map_shown (lines : List Line) : commandsOf (lines.map .shown) = [] := by
  simp [commandsOf, List.filterMap_map, Function.comp_def, Event.command?]

theorem linesOf_map_shown (lines : List Line) : linesOf (lines.map .shown) = lines := by
  simp [linesOf, List.filterMap_map, Function.comp_def, Event.line?]

variable (runner past) in
theorem finished_spec (r : Report) (result : Except Failure Unit) :
    ((finished r result).result runner past).stages = r.stages ∧
      (finished r result).events runner past = [] := by
  unfold finished
  split <;> exact ⟨rfl, rfl⟩

theorem commandsOf_writeReport (files : Files) (r : Report) (path : String) :
    commandsOf ((writeReport files r path).events runner past) = [] := by
  unfold writeReport
  split <;> rfl

variable (s o runner past) in
/-- **What is done with the report changes nothing else**: it keeps the result and the records, and
runs no command. -/
theorem conclude_spec (r : Report) (result : Except Failure Unit) :
    ((conclude s o r result).result runner past).result = result ∧
      (∃ report, ((conclude s o r result).result runner past).report = some report ∧
        report.stages = r.stages) ∧
      commandsOf ((conclude s o r result).events runner past) = [] ∧
      (o.dryRun = true → (conclude s o r result).events runner past = []) := by
  unfold conclude
  split
  · rename_i path hreport hdry
    obtain ⟨hstages, hevents⟩ := finished_spec runner past r result
    refine ⟨rfl, ⟨_, rfl, hstages⟩, ?_, fun h => absurd h (Bool.eq_false_iff.mp hdry)⟩
    rw [Session.events_bind, hevents, List.nil_append, Session.events_bind, commandsOf_append,
      commandsOf_writeReport]
    rfl
  · exact ⟨rfl, ⟨r, rfl, rfl⟩, rfl, fun _ => rfl⟩

/-- The history in which the plan of a command line begins. -/
def pastAtPlan (unknown : Option String) (past : List Event) : List Event :=
  past ++ (unknownLines unknown).map .shown

/-- What the plan of a command line makes of the report that begins with it. -/
def bodyOf (s : Surroundings) (o : Options) (goal : Goal) (past : List Event) :
    Session (Report × Except Failure Unit) :=
  runGoal s o goal (.begin goal.token (.afterEpoch (timeOf past)))

variable (s o runner past) in
/-- **A command line is its plan**, behind what is said of the token and before what is done with the
report. -/
theorem execute_eq_body (hgoal : Goal.resolve o.command o.strict = .ok (goal, unknown)) :
    let past' := pastAtPlan unknown past
    let body := bodyOf s o goal past'
    let closing := conclude s o (body.result runner past').1 (body.result runner past').2
    (execute s o).result runner past = closing.result runner (past' ++ body.events runner past') ∧
      (execute s o).events runner past = (unknownLines unknown).map .shown ++
        (body.events runner past' ++ closing.events runner (past' ++ body.events runner past')) := by
  intro past' body closing
  have hexecute : execute s o = warnUnknown unknown >>= fun _ => Pipeline.now >>= fun now =>
      runGoal s o goal (.begin goal.token now) >>= fun x => conclude s o x.1 x.2 := by
    unfold execute
    rw [hgoal]
  rw [hexecute]
  simp only [Session.result_bind, Session.events_bind, events_warnUnknown, Pipeline.now,
    Session.result_clock, Session.result_pure, Session.events_clock, Session.events_pure,
    List.append_nil, List.nil_append]
  exact ⟨rfl, rfl⟩

variable (s o runner past) in
/-- **A command line comes to what its plan comes to**, run or described, in a report that begins
without records. -/
theorem execute_of_resolved (hgoal : Goal.resolve o.command o.strict = .ok (goal, unknown)) :
    ∃ r past' tail, (execute s o).events runner past =
        (unknownLines unknown).map .shown ++ (runGoal s o goal r).events runner past' ++ tail ∧
      commandsOf tail = [] ∧ (o.dryRun = true → tail = []) ∧
      ((execute s o).result runner past).result = ((runGoal s o goal r).result runner past').2 ∧
      ∃ report, ((execute s o).result runner past).report = some report ∧
        report.stages = ((runGoal s o goal r).result runner past').1.stages ∧ r.stages = [] := by
  obtain ⟨hend, hevents⟩ := execute_eq_body s o runner past hgoal
  obtain ⟨hresult, ⟨report, hsome, hstages⟩, hquiet, hdry⟩ := conclude_spec s o runner _ _ _
  rw [hend, hevents, ← List.append_assoc]
  exact ⟨_, _, _, rfl, hquiet, hdry, hresult, report, hsome, hstages, rfl⟩

/-! ### A dry run and its run -/

/-- The same options for a dry run. -/
abbrev Options.dry (o : Options) : Options := { o with dryRun := true }

/-- The same options for a run. -/
abbrev Options.real (o : Options) : Options := { o with dryRun := false }

/-- **What a dry run foretells** of the run with the same options. -/
structure Foretold (s : Surroundings) (o : Options) (runner : Runner) (past : List Event) :
    Prop where
  /-- A dry run runs no command. -/
  quiet : commandsOf ((execute s o.dry).events runner past) = []
  /-- Where a dry run fails, the run fails before its first command, and the operator is told the
  same. -/
  failure : ∀ f, ((execute s o.dry).result runner past).result = .error f →
    commandsOf ((execute s o.real).events runner past) = [] ∧
      ∃ f', ((execute s o.real).result runner past).result = .error f' ∧ f'.ToldAlike f
  /-- Where the run fails before its first command, a dry run fails, and the operator is told the
  same. -/
  failed : ∀ f', ((execute s o.real).result runner past).result = .error f' →
    commandsOf ((execute s o.real).events runner past) = [] →
      ∃ f, ((execute s o.dry).result runner past).result = .error f ∧ f'.ToldAlike f
  /-- Where a dry run succeeds, it has listed a plan, behind the configuration if the plan makes one;
  the run is a run of that plan, and its report has the stages of the plan. -/
  plan : ((execute s o.dry).result runner past).result = .ok () →
    ∃ goal unknown p c lines, Goal.resolve o.command o.strict = .ok (goal, unknown) ∧
      prepare s o goal = .ok p ∧ p.configuration = .ok c ∧ p.plan.Listed lines ∧
      linesOf ((execute s o.dry).events runner past) =
        unknownLines unknown ++ (c.elim [] configurationLines ++ planLines lines) ∧
      ∃ r past' report, let run := (Stages.pipeline s.files p.settings p.environment).run p.plan r
        commandsOf ((execute s o.real).events runner past) =
            commandsOf (run.events runner past') ∧
          ((execute s o.real).result runner past).result = (run.result runner past').2 ∧
          ((execute s o.real).result runner past).report = some report ∧
          report.stages.map StageRecord.stage = p.plan.ids

/-- Where both fail, and neither has run a command. -/
theorem foretold_of_error {f f' : Failure}
    (hdry : ((execute s o.dry).result runner past).result = .error f ∧
      commandsOf ((execute s o.dry).events runner past) = [])
    (hreal : ((execute s o.real).result runner past).result = .error f' ∧
      commandsOf ((execute s o.real).events runner past) = [])
    (halike : f'.ToldAlike f) : Foretold s o runner past where
  quiet := hdry.2
  failure g hg := by
    obtain rfl := Except.error.inj (hdry.1.symm.trans hg)
    exact ⟨hreal.2, f', hreal.1, halike⟩
  failed g' hg' _ := by
    obtain rfl := Except.error.inj (hreal.1.symm.trans hg')
    exact ⟨f, hdry.1, halike⟩
  plan h := by
    rw [hdry.1] at h
    cases h

/-- A command line whose plan comes to a failure and runs no command. -/
theorem execute_of_error {f : Failure}
    (hgoal : Goal.resolve o.command o.strict = .ok (goal, unknown))
    (h : ∀ r past, ((runGoal s o goal r).result runner past).2 = .error f ∧
      commandsOf ((runGoal s o goal r).events runner past) = []) :
    ((execute s o).result runner past).result = .error f ∧
      commandsOf ((execute s o).events runner past) = [] := by
  obtain ⟨r, past', tail, hevents, htail, -, hresult, -⟩ :=
    execute_of_resolved s o runner past hgoal
  obtain ⟨herror, hquiet⟩ := h r past'
  refine ⟨hresult.trans herror, ?_⟩
  rw [hevents, commandsOf_append, commandsOf_append, commandsOf_map_shown, hquiet, htail]
  rfl

theorem plan_of_prepare {p : Preparation} (h : prepare s o goal = .ok p) :
    p.plan = .ofGoal goal (catalog p.settings) := by
  unfold prepare at h
  cases hsettings : Settings.load s.files o.settings with
  | error f =>
    rw [hsettings] at h
    cases h
  | ok settings =>
    cases henv : s.environment.load s.files o.envFile with
    | error f =>
      rw [hsettings, henv] at h
      cases h
    | ok env =>
      rw [hsettings, henv] at h
      obtain rfl := Except.ok.inj h
      rfl

section Prepared

variable {p : Preparation} (hp : prepare s o goal = .ok p)

include hp

variable (runner past) in
/-- A dry run of what has been prepared. -/
theorem runGoal_dry {lines : List Line} {outcome : Except Failure Unit}
    (h : (dryRun p).Shows lines outcome) (r : Report) :
    ((runGoal s o.dry goal r).result runner past).2 = outcome ∧
      (runGoal s o.dry goal r).events runner past = lines.map .shown := by
  obtain ⟨hresult, hevents⟩ := h runner past
  have hbody : runGoal s o.dry goal r = (do return (r, ← ExceptT.run (dryRun p))) := by
    unfold runGoal
    rw [show prepare s o.dry goal = .ok p from hp]
    rfl
  rw [hbody]
  exact ⟨hresult, (List.append_nil _).trans hevents⟩

theorem runGoal_real (r : Report) :
    runGoal s o.real goal r =
      (Stages.pipeline s.files p.settings p.environment).run p.plan r := by
  unfold runGoal
  rw [show prepare s o.real goal = .ok p from hp]
  rfl

/-- Where the configuration cannot be made, the run fails as the dry run does, but for the mask. -/
theorem foretold_of_invalid {f : Failure}
    (hgoal : Goal.resolve o.command o.strict = .ok (goal, unknown))
    (hf : p.configuration = .error f) : Foretold s o runner past := by
  obtain ⟨hcontains, hinvalid⟩ := Preparation.configuration_eq_error_iff.mp hf
  obtain ⟨rest, hrest⟩ : ∃ rest, p.plan.stages = validateStage :: rest := by
    have hcases := Plan.ofGoal_cases goal p.settings
    rw [← plan_of_prepare hp] at hcases
    rcases hcases with ⟨-, rest, hrest⟩ | ⟨hnone, -⟩
    · exact ⟨_, hrest⟩
    · rw [hnone] at hcontains
      cases hcontains
  refine foretold_of_error (execute_of_error hgoal fun r past => ?_)
    (execute_of_error hgoal fun r past => ?_) f.toldAlike_masked_none
  · obtain ⟨hresult, hevents⟩ := runGoal_dry runner past hp (shows_dryRun_of_invalid hf) r
    exact ⟨hresult, congrArg commandsOf hevents⟩
  · rw [runGoal_real hp]
    exact run_of_invalid hrest hinvalid r

variable (runner past) in
/-- **A dry run that succeeds** has shown the configuration, where there is one, and the plan. -/
theorem execute_dry_of_valid {c : Option Configuration}
    (hgoal : Goal.resolve o.command o.strict = .ok (goal, unknown))
    (hc : p.configuration = .ok c) :
    ((execute s o.dry).result runner past).result = .ok () ∧
      (execute s o.dry).events runner past =
        (unknownLines unknown ++
          (c.elim [] configurationLines ++ planLines p.plan.describe)).map .shown := by
  obtain ⟨r, past', tail, hevents, -, htail, hresult, -⟩ :=
    execute_of_resolved s o.dry runner past hgoal
  obtain ⟨hok, hshown⟩ := runGoal_dry runner past' hp (shows_dryRun hc) r
  refine ⟨hresult.trans hok, ?_⟩
  rw [hevents, hshown, htail rfl, List.append_nil, ← List.map_append]

variable (runner past) in
/-- **A run is a run of the plan**, and its report has the stages of the plan. -/
theorem execute_real (hgoal : Goal.resolve o.command o.strict = .ok (goal, unknown)) :
    ∃ r past' report, let run := (Stages.pipeline s.files p.settings p.environment).run p.plan r
      commandsOf ((execute s o.real).events runner past) = commandsOf (run.events runner past') ∧
        ((execute s o.real).result runner past).result = (run.result runner past').2 ∧
        ((execute s o.real).result runner past).report = some report ∧
        report.stages.map StageRecord.stage = p.plan.ids := by
  obtain ⟨r, past', tail, hevents, htail, -, hresult, report, hreport, hstages, hnone⟩ :=
    execute_of_resolved s o.real runner past hgoal
  rw [runGoal_real hp] at hevents hresult hstages
  refine ⟨r, past', report, ?_, hresult, hreport, ?_⟩
  · rw [hevents, commandsOf_append, commandsOf_append, commandsOf_map_shown, htail,
      List.append_nil, List.nil_append]
  · rw [hstages, Pipeline.result_run, Report.stages_finish, Report.addAll, List.map_append, hnone]
    exact Pipeline.map_stage_recordsOf (Pipeline.stage_visits_prefix _ p.plan runner past')

/-- Where it can be made, or need not be, the dry run succeeds and the run runs a command. -/
theorem foretold_of_valid {c : Option Configuration}
    (hgoal : Goal.resolve o.command o.strict = .ok (goal, unknown))
    (hc : p.configuration = .ok c) : Foretold s o runner past := by
  obtain ⟨hok, hshown⟩ := execute_dry_of_valid runner past hp hgoal hc
  obtain ⟨r, past', report, hcommands, hresult, hreport, hstages⟩ :=
    execute_real runner past hp hgoal
  have hvalid : p.plan.contains .validate = true →
      ∃ c, Configuration.validate p.environment = .ok c := by
    intro hcontains
    cases hv : Configuration.validate p.environment with
    | ok c => exact ⟨c, rfl⟩
    | error f =>
      rw [Preparation.configuration_eq_error_iff.mpr ⟨hcontains, hv⟩] at hc
      cases hc
  refine ⟨?_, fun f hf => ?_, fun f' _ hquiet => ?_, fun _ => ?_⟩
  · rw [hshown]
    exact commandsOf_map_shown _
  · rw [hok] at hf
    cases hf
  · -- a run that gets past its configuration has run a command
    rw [hcommands] at hquiet
    exact absurd hquiet (run_of_valid (plan_of_prepare hp) hvalid r)
  · refine ⟨goal, unknown, p, c, _, hgoal, hp, hc, p.plan.listed_describe, ?_, r, past', report,
      hcommands, hresult, hreport, hstages⟩
    rw [hshown]
    exact linesOf_map_shown _

end Prepared

/-- **A dry run foretells the run**, whatever the options, what the program finds when it starts,
and what answers the commands. -/
theorem foretold_dryRun (s : Surroundings) (o : Options) (runner : Runner) (past : List Event) :
    Foretold s o runner past := by
  cases hgoal : Goal.resolve o.command o.strict with
  | error f =>
    have hfails : ∀ o' : Options, o'.command = o.command → o'.strict = o.strict →
        ((execute s o').result runner past).result = .error f ∧
          commandsOf ((execute s o').events runner past) = [] := by
      intro o' hcommand hstrict
      rw [execute, hcommand, hstrict, hgoal]
      exact ⟨rfl, rfl⟩
    exact foretold_of_error (hfails o.dry rfl rfl) (hfails o.real rfl rfl) (.refl f)
  | ok resolved =>
    obtain ⟨goal, unknown⟩ := resolved
    cases hp : prepare s o goal with
    | error f =>
      have hfails : ∀ o' : Options, prepare s o' goal = .error f → ∀ r past,
          ((runGoal s o' goal r).result runner past).2 = .error f ∧
            commandsOf ((runGoal s o' goal r).events runner past) = [] := by
        intro o' hp' r past
        rw [runGoal, hp']
        exact ⟨rfl, rfl⟩
      exact foretold_of_error (execute_of_error hgoal (hfails o.dry hp))
        (execute_of_error hgoal (hfails o.real hp)) (.refl f)
    | ok p =>
      cases hc : p.configuration with
      | error f => exact foretold_of_invalid hp hgoal hc
      | ok c => exact foretold_of_valid hp hgoal hc

end Execution

end CommandLine

end Rollout
