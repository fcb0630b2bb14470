import Rollout.Proofs.Contract
import Rollout.Proofs.FailFast
import Rollout.Proofs.RunReport

/-!
# Before the first command

A run can stop before it has run a command, but for one reason only: its plan makes a configuration,
and the configuration cannot be made. This file proves both halves, `Rollout.run_of_invalid` and
`Rollout.run_of_valid`.

The second half rests on the stage that looks for tools. It is the second of every plan that makes a
configuration and the first of the one plan that makes none, it depends on nothing, and it cannot
end, well or badly, before it has made a call (`Rollout.busy_check`).
-/

namespace Rollout

/-! ### Attempts that run a command -/

namespace Attempt

variable {ε ε' α β : Type} {a : Attempt ε α} {f : α → Attempt ε β}

/-- **An attempt that runs a command**, however it ends. -/
abbrev Busy (a : Attempt ε α) : Prop :=
  a.Ensures (fun _ calls => calls ≠ []) fun _ calls => calls ≠ []

/-- An attempt that does not fail before it has run a command. -/
abbrev BusyToFail (a : Attempt ε α) : Prop :=
  a.Ensures (fun _ _ => True) fun _ calls => calls ≠ []

theorem Busy.calls_ne_nil (h : a.Busy) (runner : Runner) (past : List Event) :
    callsOf (a.events runner past) ≠ [] := by
  have hcontract := h runner past
  split at hcontract <;> exact hcontract

theorem Busy.toFail (h : a.Busy) : a.BusyToFail := h.mono (fun _ _ _ => trivial) fun _ _ h => h

theorem busyToFail_pure (x : α) : (pure x : Attempt ε α).BusyToFail :=
  (ensures_pure x).mono (fun _ _ _ => trivial) nofun

/-- Whatever comes behind a command. -/
theorem Busy.bind (ha : a.Busy) (f : α → Attempt ε β) : (a >>= f).Busy := by
  have hany : ∀ x, (f x).Ensures (fun _ _ => True) fun _ _ => True := by
    intro x runner past
    split <;> trivial
  refine Ensures.bind ha (fun x before hbefore => ?_) fun _ _ h => h
  exact (hany x).mono (fun _ _ _ => List.append_ne_nil_of_left_ne_nil hbefore _)
    fun _ _ _ => List.append_ne_nil_of_left_ne_nil hbefore _

/-- A command behind what does not fail without one. -/
theorem BusyToFail.bind (ha : a.BusyToFail) (hf : ∀ x, (f x).Busy) : (a >>= f).Busy := by
  refine Ensures.bind ha (fun x before _ => ?_) fun _ _ h => h
  exact (hf x).mono (fun _ _ h => List.append_ne_nil_of_right_ne_nil _ h)
    fun _ _ h => List.append_ne_nil_of_right_ne_nil _ h

theorem Busy.mapFailure (ha : a.Busy) (f : ε → ε') : (Attempt.mapFailure f a).Busy :=
  (Ensures.mapFailure ha f).mono (fun _ _ h => h) fun _ _ ⟨_, _, h⟩ => h

theorem busy_runChecked (c : Command) : (runChecked c).Busy := by
  refine (ensures_runChecked c).mono ?_ ?_
  · rintro o calls ⟨rfl, -⟩
    exact List.cons_ne_nil _ _
  · rintro e calls ⟨answer, rfl, -⟩
    exact List.cons_ne_nil _ _

end Attempt

/-! ### The stage that looks for tools -/

section Prerequisites

open Tools Stages Attempt

theorem busy_which (tool : String) : (which tool).Busy := by
  intro runner past
  have hcalls : callsOf ((which tool).events runner past) ≠ [] := by
    rcases which_cases tool runner past with ⟨a, -, hevents, -⟩ | ⟨name, a, hevents, -⟩
    · rw [hevents]
      exact List.cons_ne_nil _ _
    · rw [hevents]
      exact List.cons_ne_nil _ _
  split <;> exact hcalls

theorem busyToFail_findTools (tools : List String) :
    (Prerequisites.findTools tools).BusyToFail := by
  induction tools with
  | nil => exact busyToFail_pure ()
  | cons tool rest ih =>
    have htool : (Prerequisites.findTool tool).Busy := ((busy_which tool).mapFailure _).bind _
    exact (htool.bind _).toFail

/-- **Looking for tools and an account takes a command**, whatever comes of it; there need be no
tools to look for. -/
theorem busy_check (tools : List String) : (Prerequisites.check tools).Busy := by
  have haccount : Gcloud.activeAccount.Busy := (busy_runChecked _).bind _
  exact (busyToFail_findTools tools).bind fun _ => .after_display ((haccount.mapFailure _).bind _)

end Prerequisites

/-! ### Plans -/

/-- The stage that makes the configuration. -/
def validateStage : Stage := ⟨.validate, [], .notApplicable, []⟩

/-- The stage that looks for tools. -/
def prerequisitesStage : Stage := ⟨.prerequisites, [], .notApplicable, []⟩

/-- **How a plan begins**: with the configuration and then the tools, or with the tools where it
makes no configuration. -/
theorem Plan.ofGoal_cases (goal : Goal) (settings : Settings) :
    let plan := Plan.ofGoal goal (catalog settings)
    (plan.contains .validate = true ∧
        ∃ rest, plan.stages = validateStage :: prerequisitesStage :: rest) ∨
      (plan.contains .validate = false ∧ ∃ rest, plan.stages = prerequisitesStage :: rest) := by
  cases goal with
  | check => exact .inr ⟨rfl, _, rfl⟩
  | cluster => exact .inl ⟨rfl, _, rfl⟩
  | images => exact .inl ⟨rfl, _, rfl⟩
  | deployBase => exact .inl ⟨rfl, _, rfl⟩
  | deployAgents => exact .inl ⟨rfl, _, rfl⟩
  | all => exact .inl ⟨rfl, _, rfl⟩

/-! ### The first stages of a run -/

section Run

open Stages Pipeline

variable {files : Files} {settings : Settings} {env : Environment} {runner : Runner}
  {past : List Event} {plan : Plan} {rest : List Stage} {v : Visit}

/-- A stage that depends on nothing is not held up. -/
theorem Visit.invoked_of_independent (h : v.stage.dependencies = []) : v.Invoked := by
  rw [Visit.Invoked, Context.unmet, h, List.filter_nil]

section Validate

variable (files settings runner) (h : v.stage = validateStage)

include h

/-- The stage that makes the configuration, where it can be made. -/
theorem work_of_valid {c : Configuration} (hc : Configuration.validate env = .ok c) :
    v.work (pipeline files settings env) runner =
      ⟨{ v.ctx with configuration := some c }, .ok .silent⟩ := by
  obtain ⟨number, stage, ctx, past⟩ := v
  obtain rfl := h
  have haction : (pipeline files settings env).actions validateStage ctx = validate env ctx := rfl
  change ((pipeline files settings env).perform validateStage ctx).result runner past = _
  simp only [perform, haction, validate, hc]
  rfl

/-- Where it cannot be made, the stage fails as soon as it has begun. -/
theorem work_of_invalid {f : Failure} (hf : Configuration.validate env = .error f) :
    v.work (pipeline files settings env) runner = ⟨v.ctx, .error f⟩ ∧
      v.events (pipeline files settings env) runner = [.began .validate] := by
  obtain ⟨number, stage, ctx, past⟩ := v
  obtain rfl := h
  have haction : (pipeline files settings env).actions validateStage ctx = validate env ctx := rfl
  change ((pipeline files settings env).perform validateStage ctx).result runner past = _ ∧
    ((pipeline files settings env).perform validateStage ctx).events runner past = _
  simp only [perform, haction, validate, hf]
  exact ⟨rfl, rfl⟩

end Validate

/-- Looking for tools takes a command. -/
theorem commandsOf_prerequisitesStage (h : v.stage = prerequisitesStage) :
    commandsOf (v.events (pipeline files settings env) runner) ≠ [] := by
  have hdeeds : v.deeds (pipeline files settings env) runner =
      (Prerequisites.check settings.requiredTools).events runner v.begun := by
    rw [Visit.deeds, h]
    exact events_plain v.ctx _ runner _
  have hcalls : callsOf (v.deeds (pipeline files settings env) runner) ≠ [] :=
    hdeeds ▸ (busy_check settings.requiredTools).calls_ne_nil runner v.begun
  have hinvoked : v.Invoked := Visit.invoked_of_independent (congrArg Stage.dependencies h)
  rw [Visit.events_of_invoked hinvoked, Ne, commandsOf_eq_nil_iff, ← List.singleton_append,
    callsOf_append, callsOf_append, List.append_eq_nil_iff, List.append_eq_nil_iff]
  exact fun hnil => hcalls hnil.2.1

section First

variable {p : Pipeline} {stage next : Stage} {total number : Nat} {ctx : Context}

/-- A run comes to the first of the stages that are left. -/
theorem come_mem_visitsFrom :
    Visit.come total number stage ctx past ∈
      p.visitsFrom runner total number (stage :: rest) ctx past := by
  cases h : (Visit.come total number stage ctx past).failure? p runner with
  | none =>
    rw [visitsFrom_cons_of_none rfl h]
    exact List.mem_cons_self
  | some f =>
    rw [visitsFrom_cons_of_some rfl h]
    exact List.mem_cons_self

/-- A run whose first stage does not fail comes to the second. -/
theorem exists_second_mem_visitsFrom
    (h : (Visit.come total number stage ctx past).failure? p runner = none) :
    ∃ v ∈ p.visitsFrom runner total number (stage :: next :: rest) ctx past, v.stage = next := by
  rw [visitsFrom_cons_of_none rfl h]
  exact ⟨_, List.mem_cons_of_mem _ come_mem_visitsFrom, rfl⟩

/-- A run has run the commands of its visits. -/
theorem commandsOf_run_ne_nil (hv : v ∈ p.visits plan runner past)
    (h : commandsOf (v.events p runner) ≠ []) (r : Report) :
    commandsOf ((p.run plan r).events runner past) ≠ [] := by
  obtain ⟨before, after, hvisits⟩ := List.append_of_mem hv
  intro hnil
  rw [events_run, hvisits, historyOf, List.flatMap_append, List.flatMap_cons] at hnil
  simp only [commandsOf_append, List.append_eq_nil_iff] at hnil
  exact h hnil.1.2.1

end First

variable (files settings runner past) in
/-- A plan whose configuration cannot be made comes to its first stage only. -/
theorem visits_of_invalid {f : Failure} (hplan : plan.stages = validateStage :: rest)
    (hf : Configuration.validate env = .error f) :
    ∃ v, (pipeline files settings env).visits plan runner past = [v] ∧ v.stage = validateStage ∧
      v.failure? (pipeline files settings env) runner = some (f.masked (Context.mask none)) := by
  let p := pipeline files settings env
  let v := Visit.come plan.stages.length 1 validateStage .empty past
  have hwork : v.work p runner = ⟨.empty, .error f⟩ :=
    (work_of_invalid files settings runner rfl hf).1
  have hfailure : v.failure? p runner = some (f.masked (Context.mask none)) :=
    Visit.failure?_eq_some_iff.mpr ⟨f, by rw [hwork], by rw [Visit.configuration, hwork]; rfl⟩
  refine ⟨v, ?_, rfl, hfailure⟩
  have hfrom : p.visitsFrom runner plan.stages.length 1 (validateStage :: rest) .empty past =
      [v] := visitsFrom_cons_of_some rfl hfailure
  rwa [← hplan] at hfrom

/-- **A plan whose configuration cannot be made** fails before its first command. -/
theorem run_of_invalid {f : Failure} (hplan : plan.stages = validateStage :: rest)
    (hf : Configuration.validate env = .error f) (r : Report) :
    (((pipeline files settings env).run plan r).result runner past).2 =
        .error (f.masked (Context.mask none)) ∧
      commandsOf (((pipeline files settings env).run plan r).events runner past) = [] := by
  obtain ⟨v, hvisits, hstage, hfailure⟩ :=
    visits_of_invalid files settings runner past hplan hf
  have hevents := (work_of_invalid files settings runner hstage hf).2
  have hend : (pipeline files settings env).failureOf runner [v] =
      some (f.masked (Context.mask none)) := by
    simp only [failureOf, List.findSome?_cons, hfailure]
  rw [result_run, events_run, hvisits, hend]
  refine ⟨rfl, ?_⟩
  -- but for the line that announces it, the history is that of the one visit
  rw [List.append_nil, historyOf, List.flatMap_singleton, Visit.history, hevents]
  rfl

/-- **A plan whose configuration can be made**, if it makes one, runs a command. -/
theorem run_of_valid {goal : Goal} (hplan : plan = .ofGoal goal (catalog settings))
    (h : plan.contains .validate = true → ∃ c, Configuration.validate env = .ok c) (r : Report) :
    commandsOf (((pipeline files settings env).run plan r).events runner past) ≠ [] := by
  have hcases := Plan.ofGoal_cases goal settings
  rw [← hplan] at hcases
  obtain ⟨v, hv, hstage⟩ : ∃ v ∈ (pipeline files settings env).visits plan runner past,
      v.stage = prerequisitesStage := by
    -- the number of stages is shown in the announcements only
    rw [visits]
    generalize plan.stages.length = total
    rcases hcases with ⟨hcontains, rest, hrest⟩ | ⟨-, rest, hrest⟩
    · obtain ⟨c, hc⟩ := h hcontains
      have hwork : (Visit.come total 1 validateStage .empty past).work (pipeline files settings env)
          runner = ⟨{ Context.empty with configuration := some c }, .ok .silent⟩ :=
        work_of_valid files settings runner rfl hc
      rw [hrest]
      exact exists_second_mem_visitsFrom
        (Visit.failure?_eq_none_iff.mpr ⟨.silent, congrArg Work.outcome hwork⟩)
    · rw [hrest]
      exact ⟨_, come_mem_visitsFrom, rfl⟩
  exact commandsOf_run_ne_nil hv (commandsOf_prerequisitesStage hstage) r

end Run

end Rollout
