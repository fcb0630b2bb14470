import Rollout.Proofs.FailureCodes
import Rollout.Proofs.FirstCommand
import Rollout.Proofs.Gating

/-!
# Every plan provides what its stages need

The executor refuses a stage whose dependencies have not been completed, and a stage that reads the
configuration fails where there is none. A run of a plan of the catalog knows neither failure. The
stages that a goal selects and the dependencies that the catalog declares are kept apart from each
other, and that they fit is a fact about the plan alone: its stages stand in a *ready order*
(`Rollout.isReadyOrder_ofGoal`). What turns this into a fact about runs is the invariant
`Rollout.Context.Sound`: where the stage that makes the configuration is completed, there is a
configuration. Every stage that a run comes to preserves it (`Rollout.sound_leaves`).

So the work of every stage that a run comes to is invoked, and finds a configuration if it reads one
(`Rollout.provided_of_mem`); the failure of a run is then one of the work or of the waits of a
stage. Where no configuration can be made, nothing is asked of anyone: `Rollout.Refused`. Both are
in the main statement, `Rollout.provided_run`.
-/

namespace Rollout

/-! ### Ready orders -/

/-- Whether a stage finds what it needs behind the stages that are done. -/
def Stage.isReady (done : List StageId) (stage : Stage) : Bool :=
  stage.dependencies.all done.contains &&
    (!stage.id.readsConfiguration || done.contains .validate)

/-- **Whether stages stand in a ready order**: each finds what it needs behind those before it. -/
def isReadyOrder (done : List StageId) : List Stage → Bool
  | [] => true
  | stage :: rest => stage.isReady done && isReadyOrder (done ++ [stage.id]) rest

/-- A stage that is ready stays so when more is done. -/
theorem isReady_mono {done more : List StageId} {stage : Stage} (hmore : done ⊆ more)
    (h : stage.isReady done = true) : stage.isReady more = true := by
  simp only [Stage.isReady, Bool.and_eq_true, List.all_eq_true, Bool.or_eq_true,
    List.contains_iff_mem] at h ⊢
  exact ⟨fun id hid => hmore (h.1 id hid), h.2.imp_right (hmore ·)⟩

/-- A stage in its place is ready. -/
theorem isReady_of_split {done : List StageId} {before behind : List Stage} {stage : Stage}
    (h : isReadyOrder done (before ++ stage :: behind) = true) :
    stage.isReady (done ++ before.map Stage.id) = true := by
  induction before generalizing done with
  | nil =>
    rw [List.map_nil, List.append_nil]
    exact (Bool.and_eq_true_iff.mp h).1
  | cons first before ih =>
    have hrest := ih (Bool.and_eq_true_iff.mp h).2
    rwa [List.append_assoc, List.singleton_append] at hrest

/-- **The stages of every goal stand in a ready order**, whatever the settings. -/
theorem isReadyOrder_ofGoal (goal : Goal) (settings : Settings) :
    isReadyOrder [] (Plan.ofGoal goal (catalog settings)).stages = true := by
  cases goal <;> rfl

/-- A stage that is ready has no dependency that is missing. -/
theorem unmet_of_isReady {ctx : Context} {stage : Stage}
    (h : stage.isReady ctx.completed = true) : ctx.unmet stage = [] := by
  have hall := List.all_eq_true.mp (Bool.and_eq_true_iff.mp h).1
  refine List.filter_eq_nil_iff.mpr fun id hid => ?_
  rw [hall id hid]
  exact Bool.false_ne_true

/-! ### The configuration of a run -/

/-- **A sound context**: where the configuration is said to have been made, there is one. -/
def Context.Sound (ctx : Context) : Prop :=
  .validate ∈ ctx.completed → ∃ c, ctx.configuration = some c

theorem Context.sound_empty : Context.empty.Sound := nofun

section Runs

open Stages Pipeline

variable {files : Files} {settings : Settings} {env : Environment} {runner : Runner}
  {past : List Event} {goal : Goal} {v : Visit} {f : Failure}

/-- What a stage hands back is what its work hands back. -/
theorem Visit.ctx_work_of_invoked {p : Pipeline} (h : v.Invoked) :
    (v.work p runner).ctx = (v.action p runner).ctx := by
  unfold Visit.Invoked at h
  simp only [Visit.work, runStage, h, perform, Visit.action, Visit.begun]
  cases ho : ((p.actions v.stage v.ctx).result runner (v.past ++ [.began v.stage.id])).outcome with
  | ok o => simp [ho]
  | error f => simp [ho]

/-- What a stage of the catalog hands back is what it finds, but for a configuration that is made. -/
theorem ctx_work_cases :
    (v.work (pipeline files settings env) runner).ctx = v.ctx ∨
      ∃ c, Configuration.validate env = .ok c ∧
        (v.work (pipeline files settings env) runner).ctx =
          { v.ctx with configuration := some c } := by
  by_cases hinvoked : v.Invoked
  · rw [Visit.ctx_work_of_invoked hinvoked]
    exact ctx_actions_cases files settings env v.stage v.ctx runner v.begun
  · rw [Visit.work_of_not_invoked hinvoked]
    exact .inl rfl

/-- **No stage of the catalog meddles with the list of completed stages.** -/
theorem completed_work :
    (v.work (pipeline files settings env) runner).ctx.completed = v.ctx.completed := by
  rcases ctx_work_cases with h | ⟨c, -, h⟩ <;> rw [h]

theorem countsNoneIn_pipeline : v.CountsNoneIn (pipeline files settings env) runner :=
  fun _ hid => completed_work ▸ hid

theorem leavesNoneOut_pipeline : v.LeavesNoneOut (pipeline files settings env) runner :=
  fun _ hid => completed_work.symm ▸ hid

/-- The stage that makes the configuration succeeds only by making one. -/
theorem configuration_of_validate (hid : v.stage.id = .validate)
    (hgood : v.failure? (pipeline files settings env) runner = none) :
    ∃ c, v.configuration (pipeline files settings env) runner = some c := by
  obtain ⟨hinvoked, ⟨o, ho⟩, -⟩ := Visit.completed_of_good hgood
  have haction : (pipeline files settings env).actions v.stage v.ctx = validate env v.ctx := by
    simp only [pipeline, Stages.actions, hid]
  rw [Visit.configuration, Visit.ctx_work_of_invoked hinvoked]
  rw [Visit.action, haction] at ho ⊢
  cases hc : Configuration.validate env with
  | error f =>
    simp only [validate, hc] at ho
    cases ho
  | ok c =>
    simp only [validate, hc]
    exact ⟨c, rfl⟩

/-- **A stage that does not fail preserves soundness**: it adds itself to what is completed, and
never takes the configuration away. -/
theorem sound_leaves (h : v.ctx.Sound)
    (hgood : v.failure? (pipeline files settings env) runner = none) :
    (v.leaves (pipeline files settings env) runner).Sound := by
  intro hmem
  rcases List.mem_append.mp hmem with hbefore | hself
  · rw [completed_work] at hbefore
    obtain ⟨c, hc⟩ := h hbefore
    rcases ctx_work_cases with hctx | ⟨c', -, hctx⟩
    · exact ⟨c, by rw [Visit.leaves, hctx]; exact hc⟩
    · exact ⟨c', by rw [Visit.leaves, hctx]; rfl⟩
  · exact configuration_of_validate (List.mem_singleton.mp hself).symm hgood

/-- **A run comes to no stage whose needs are not met**: its work is invoked, and there is a
configuration if it reads one. -/
theorem provided_of_mem
    (hv : v ∈ (pipeline files settings env).visits (.ofGoal goal (catalog settings)) runner past) :
    v.Invoked ∧ (v.stage.id.readsConfiguration = true → ∃ c, v.ctx.configuration = some c) := by
  have hsound : v.ctx.Sound := ctx_of_mem_visitsFrom (fun _ => sound_leaves) Context.sound_empty hv
  obtain ⟨before, after, hvisits⟩ := List.append_of_mem hv
  obtain ⟨⟨behind, hstages⟩, -, -, -⟩ := visits_split _ _ _ _ hvisits
  have hready : v.stage.isReady v.ctx.completed = true := by
    have horder := isReadyOrder_ofGoal goal settings
    rw [hstages] at horder
    have h := isReady_of_split horder
    rw [List.nil_append, List.map_map] at h
    refine isReady_mono (fun id hid => ?_) h
    obtain ⟨w, hw, rfl⟩ := List.mem_map.mp hid
    exact completed_of_come_to _ _ _ _ hvisits (fun _ _ => leavesNoneOut_pipeline) hw
  refine ⟨unmet_of_isReady hready, fun hreads => hsound ?_⟩
  have h := (Bool.and_eq_true_iff.mp hready).2
  rw [hreads] at h
  exact List.mem_of_elem_eq_true h

/-! ### Failures of runs -/

/-- A stage whose work is invoked fails with its work, or else with its waits. -/
theorem among_or_await (hinvoked : v.Invoked)
    (hc : v.stage.id.readsConfiguration = true → ∃ c, v.ctx.configuration = some c)
    (hf : (v.work (pipeline files settings env) runner).outcome = .error f) :
    f.Among v.stage.id.codes ∨ ∃ o,
      (v.action (pipeline files settings env) runner).outcome = .ok o ∧
        (await (pipeline files settings env).waiter v.stage.readiness o).result runner
          (v.begun ++ v.deeds (pipeline files settings env) runner) = .error f := by
  rw [Visit.outcome_of_invoked hinvoked] at hf
  cases ha : (v.action (pipeline files settings env) runner).outcome with
  | error e =>
    rw [ha] at hf
    obtain rfl := Except.error.inj hf
    exact .inl (among_of_actions hc ha)
  | ok o =>
    rw [ha] at hf
    exact .inr ⟨o, rfl, hf⟩

/-- The failure of a stage is one of its work or of its waits. -/
theorem among_of_failure (hinvoked : v.Invoked)
    (hc : v.stage.id.readsConfiguration = true → ∃ c, v.ctx.configuration = some c)
    (hf : v.failure? (pipeline files settings env) runner = some f) :
    f.Among (v.stage.id.codes ++ waitCodes) := by
  obtain ⟨f', hf', rfl⟩ := Visit.failure?_eq_some_iff.mp hf
  refine Failure.Among.masked ?_ _
  rcases among_or_await hinvoked hc hf' with hwork | ⟨o, -, hawait⟩
  · exact hwork.mono (List.subset_append_left ..)
  · have hprobe (c : Condition) : ((pipeline files settings env).waiter.probe c).FailsOnly
        (Failure.Among waitCodes) :=
      (failsOnly_ofCluster _ c).mono (fun _ _ h => h) fun _ _ h => h.mono (by decide)
    have hwait := (failsOnly_await hprobe among_timeoutFailure v.stage.readiness o).of_error hawait
    exact hwait.mono (List.subset_append_right ..)

/-- **The failure of a run** is one of the work or of the waits of a stage that it came to. -/
theorem among_of_run {r : Report}
    (h : (((pipeline files settings env).run (.ofGoal goal (catalog settings)) r).result runner
      past).2 = .error f) :
    ∃ v ∈ (pipeline files settings env).visits (.ofGoal goal (catalog settings)) runner past,
      f.Among (v.stage.id.codes ++ waitCodes) := by
  rw [outcome_run] at h
  obtain ⟨v, hv, hf⟩ := List.exists_of_findSome?_eq_some (outcomeOf_eq_error_iff.mp h)
  obtain ⟨hinvoked, hc⟩ := provided_of_mem hv
  exact ⟨v, hv, among_of_failure hinvoked hc hf⟩

/-- A failure of the executor's own is none of a stage's work or waits. -/
theorem codes_disjoint_pipeline (id : StageId) :
    ∀ code ∈ id.codes ++ waitCodes, code ∉ (Matter.pipeline none []).codes := by
  have hall : (id.codes ++ waitCodes).all
      (fun code => !(Matter.pipeline none []).codes.contains code) = true := by
    cases id <;> rfl
  intro code hcode hmem
  have hnot := List.all_eq_true.mp hall code hcode
  rw [List.contains_iff_mem.mpr hmem] at hnot
  cases hnot

/-! ### Without a configuration -/

/-- **A run that is refused its configuration**, given the plan, the failure with which the
environment is refused, what happens in the run, and its report and result. -/
structure Refused (plan : Plan) (f : Failure) (events : List Event)
    (result : Report × Except Failure Unit) : Prop where
  /-- The failure is returned as it is. -/
  failure : result.2 = .error f
  commands : commandsOf events = []
  /-- Only the stage that makes the configuration is begun. -/
  begun : stagesOf events = [.validate]
  executed : result.1.executed = [.validate]
  /-- It is recorded with the failure, and every stage behind it as not run. -/
  records : ∃ record behind, plan.ids = .validate :: behind ∧
    result.1.stages = record :: behind.map StageRecord.notRun ∧
    record.stage = .validate ∧ record.status = .failed ∧ record.error = some f.text

variable (files settings runner past) in
/-- A plan that begins with the configuration ends with it where none can be made. -/
theorem refused_run {plan : Plan} {rest : List Stage} (hplan : plan.stages = validateStage :: rest)
    (hf : Configuration.validate env = .error f) (command : String) (began : Timestamp) :
    let run := (pipeline files settings env).run plan (.begin command began)
    Refused plan f (run.events runner past) (run.result runner past) := by
  intro run
  obtain ⟨v, hvisits, hstage, hfailure⟩ := visits_of_invalid files settings runner past hplan hf
  rw [(refusal_of_validate hf).masked_none] at hfailure
  have hevents := (work_of_invalid files settings runner hstage hf).2
  have hend : (pipeline files settings env).failureOf runner [v] = some f := by
    simp only [failureOf, List.findSome?_cons, hfailure]
  have hresult : run.result runner past = _ := result_run _ plan (.begin command began) runner past
  have hhistory : run.events runner past = _ := events_run _ plan (.begin command began) runner past
  rw [hvisits, hend] at hresult hhistory
  have hone : run.events runner past =
      [.shown (stageLine plan.stages.length v.number v.stage), .began .validate] := by
    rw [hhistory, List.append_nil, historyOf, List.flatMap_singleton, Visit.history, hevents]
  have hstages : (run.result runner past).1.stages =
      (pipeline files settings env).recordsOf runner plan.stages [v] := by
    rw [hresult]
    rfl
  refine ⟨by rw [hresult]; rfl, by rw [hone]; rfl, by rw [hone]; rfl, ?_, ?_⟩
  · rw [Report.executed, hstages, filter_recordsOf, List.map_singleton, List.map_singleton,
      Visit.stage_record, hstage]
    rfl
  · refine ⟨v.record (pipeline files settings env) runner, rest.map Stage.id, ?_, ?_, ?_⟩
    · rw [Plan.ids, hplan]
      rfl
    · rw [hstages, recordsOf, hplan, List.map_map]
      rfl
    · rw [Visit.record_of_eq_some hfailure, hstage]
      exact ⟨rfl, rfl, rfl⟩

/-! ### Runs of the catalog -/

/-- A goal that makes a configuration makes it first. -/
theorem validateStage_of_ne_check (h : goal ≠ .check) (settings : Settings) :
    ∃ rest, (Plan.ofGoal goal (catalog settings)).stages = validateStage :: rest := by
  cases goal with
  | check => exact absurd rfl h
  | _ => exact ⟨_, rfl⟩

/-- **A run knows no failure of the executor's own**: whatever the settings, the environment, the
answers to commands and what the run starts from, no stage misses what it depends on or the
configuration; and where no configuration can be made, the run ends with just that. -/
theorem provided_run (files : Files) (settings : Settings) (env : Environment) (goal : Goal)
    (command : String) (began : Timestamp) (runner : Runner) (past : List Event) :
    let plan := Plan.ofGoal goal (catalog settings)
    let run := (pipeline files settings env).run plan (.begin command began)
    (∀ f, (run.result runner past).2 = .error f →
      f.code ≠ 9001 ∧ f.code ≠ 9002 ∧ ∀ stage causes, f.matter ≠ .pipeline stage causes) ∧
    (goal ≠ .check → ∀ f, Configuration.validate env = .error f →
      Refused plan f (run.events runner past) (run.result runner past)) := by
  intro plan run
  refine ⟨fun f hf => ?_, fun hgoal f hf => ?_⟩
  · obtain ⟨v, -, hamong⟩ := among_of_run hf
    have hapart := codes_disjoint_pipeline v.stage.id
    refine ⟨fun hcode => ?_, fun hcode => ?_, hamong.matter_ne_pipeline hapart⟩
    · exact hapart f.code hamong.code (hcode ▸ by decide)
    · exact hapart f.code hamong.code (hcode ▸ by decide)
  · obtain ⟨rest, hrest⟩ := validateStage_of_ne_check hgoal settings
    exact refused_run files settings runner past hrest hf command began

/-- A run for a cluster in an environment where nothing is set: it ends with the first setting that
is missing, and not for want of anything of its own. -/
theorem provided_run_unset :
    let plan := Plan.ofGoal .cluster (catalog .builtIn)
    let run := (pipeline .empty .builtIn .empty).run plan (.begin "cluster" (.afterEpoch .zero))
    let f := Failure.missing "PROJECT_ID"
    Goal.cluster ≠ .check ∧ Configuration.validate .empty = .error f ∧
      Refused plan f (run.events (fun _ _ => .error (.io "")) [])
        (run.result (fun _ _ => .error (.io "")) []) ∧
      f.code ≠ 9001 ∧ f.code ≠ 9002 ∧ ∀ stage causes, f.matter ≠ .pipeline stage causes := by
  intro plan run f
  have hinvalid : Configuration.validate .empty = .error f := rfl
  obtain ⟨hown, hrefused⟩ := provided_run .empty .builtIn .empty .cluster "cluster"
    (.afterEpoch .zero) (fun _ _ => .error (.io "")) []
  have hends := hrefused nofun f hinvalid
  exact ⟨nofun, hinvalid, hends, hown f hends.failure⟩

end Runs

end Rollout
