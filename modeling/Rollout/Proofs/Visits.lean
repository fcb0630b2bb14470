import Mathlib.Data.List.Induction
import Rollout.Proofs.Attempt
import Rollout.Pipeline

/-!
# The stages that a run comes to

A run takes its stages one by one and stops at the first that fails. This file unrolls that loop
into the list of its *visits* (`Rollout.Pipeline.visits`): the stages that the run comes to, each
with what the stages before it leave and with what has happened before it. What a visit comes to
(`Rollout.Visit.work`), what it does (`Rollout.Visit.events`) and its record for the report
(`Rollout.Visit.record`) are those of the loop.

## What the visits are good for

* The report, the result and the history of a run are read off its visits:
  `Rollout.Pipeline.result_run` and `Rollout.Pipeline.events_run`.
* A run ends in one of two ways, `Rollout.Pipeline.visitsFrom_end`, and what it knows when it comes
  to a stage is what the visit before leaves, `Rollout.Pipeline.visitsFrom_split`. The list of
  completed stages has nothing but the stages of the visits before if none of them counts one in
  (`Rollout.Visit.CountsNoneIn`), and has them all if none of them leaves one out
  (`Rollout.Visit.LeavesNoneOut`).
* The work of a stage was *invoked* (`Rollout.Visit.Invoked`) only when nothing that the stage
  depends on was missing, and then once: `Rollout.Visit.events_of_invoked`.

The work of the stages is arbitrary throughout, and so is what answers the commands.
-/

namespace Rollout

/-- Adds records, one behind the other. -/
def Report.addAll (r : Report) (records : List StageRecord) : Report :=
  { r with stages := r.stages ++ records }

/-- A stage that a run has come to. -/
structure Visit where
  /-- Its place in the plan, counted from one. -/
  number : Nat
  stage : Stage
  /-- What the stages before it leave. -/
  ctx : Context
  /-- What has happened before it, the line that announces it included. -/
  past : List Event

namespace Visit

/-- A run comes to a stage: the stage is announced. -/
def come (total number : Nat) (stage : Stage) (ctx : Context) (past : List Event) : Visit :=
  ⟨number, stage, ctx, past ++ [.shown (Pipeline.stageLine total number stage)]⟩

@[simp] theorem number_come (total number : Nat) (stage : Stage) (ctx : Context)
    (past : List Event) : (come total number stage ctx past).number = number := rfl

@[simp] theorem stage_come (total number : Nat) (stage : Stage) (ctx : Context)
    (past : List Event) : (come total number stage ctx past).stage = stage := rfl

@[simp] theorem ctx_come (total number : Nat) (stage : Stage) (ctx : Context)
    (past : List Event) : (come total number stage ctx past).ctx = ctx := rfl

@[simp] theorem past_come (total number : Nat) (stage : Stage) (ctx : Context)
    (past : List Event) : (come total number stage ctx past).past =
      past ++ [.shown (Pipeline.stageLine total number stage)] := rfl

section What

variable (p : Pipeline) (runner : Runner) (v : Visit)

/-- What came of the stage. -/
def work : Work := (p.runStage v.stage v.ctx).result runner v.past

/-- What was done for the stage. -/
def events : List Event := (p.runStage v.stage v.ctx).events runner v.past

/-- What the run does for the stage, the line that announces it included. -/
def history (total : Nat) : List Event :=
  .shown (Pipeline.stageLine total v.number v.stage) :: v.events p runner

/-- What has happened when the run is done with the stage. -/
def after : List Event := v.past ++ v.events p runner

/-- The configuration of the run when it is done with the stage. -/
def configuration : Option Configuration := (v.work p runner).ctx.configuration

/-- What the stage leaves to those behind it, if it did not fail. -/
def leaves : Context := (v.work p runner).ctx.complete v.stage.id

/-- **The stage counts none in**: what it hands back as completed was so when the run came to it. -/
def CountsNoneIn : Prop := ∀ id ∈ (v.work p runner).ctx.completed, id ∈ v.ctx.completed

/-- **The stage leaves none out**: what was completed when the run came to it is handed back. -/
def LeavesNoneOut : Prop := ∀ id ∈ v.ctx.completed, id ∈ (v.work p runner).ctx.completed

/-- The failure of the stage, masked, if it failed. -/
def failure? : Option Failure :=
  match (v.work p runner).outcome with
  | .ok _ => none
  | .error f => some (f.masked (Context.mask (v.configuration p runner)))

/-- When the run came to the stage. -/
def startedAt : Timestamp := .afterEpoch (timeOf v.past)

/-- How long the stage took. -/
def took : Duration := ⟨(timeOf (v.after p runner)).nanos - (timeOf v.past).nanos⟩

/-- What is reported of the stage. -/
def record : StageRecord :=
  match (v.work p runner).outcome with
  | .ok o => .succeeded v.stage.id v.startedAt (v.took p runner) o.warnings o.notes
  | .error f =>
    .failed v.stage.id v.startedAt (v.took p runner)
      (f.masked (Context.mask (v.configuration p runner))).text

/-! ### The parts of a visit -/

/-- **The work of the stage was invoked**: nothing that it depends on was missing. -/
def Invoked : Prop := v.ctx.unmet v.stage = []

/-- What has happened before the work of the stage. -/
def begun : List Event := v.past ++ [.began v.stage.id]

/-- What the work of the stage came to. -/
def action : Work := (p.actions v.stage v.ctx).result runner v.begun

/-- What the work of the stage does. -/
def deeds : List Event := (p.actions v.stage v.ctx).events runner v.begun

/-- What is done to wait for the workloads of the stage, when its work has come to an end. -/
def waits : List Event :=
  match (v.action p runner).outcome with
  | .ok o =>
    (Pipeline.await p.waiter v.stage.readiness o).events runner (v.begun ++ v.deeds p runner)
  | .error _ => []

end What

variable {p : Pipeline} {runner : Runner} {v : Visit}

/-- What has happened behind a visit: what had happened before, and what was done for the stage. -/
theorem after_come (total number : Nat) (stage : Stage) (ctx : Context) (past : List Event) :
    (come total number stage ctx past).after p runner =
      past ++ (come total number stage ctx past).history p runner total := by
  simp [after, history, come]

theorem failure?_eq_none_iff :
    v.failure? p runner = none ↔ ∃ o, (v.work p runner).outcome = .ok o := by
  unfold failure?
  split <;> simp [*]

theorem failure?_eq_some_iff {f : Failure} :
    v.failure? p runner = some f ↔ ∃ f', (v.work p runner).outcome = .error f' ∧
      f'.masked (Context.mask (v.configuration p runner)) = f := by
  unfold failure?
  split <;> simp [*]

@[simp] theorem stage_record : (v.record p runner).stage = v.stage.id := by
  unfold record
  split <;> rfl

/-- A stage that did not fail is recorded as a success. -/
theorem status_record_of_eq_none (h : v.failure? p runner = none) :
    (v.record p runner).status = .succeeded := by
  obtain ⟨o, ho⟩ := failure?_eq_none_iff.mp h
  simp only [record, ho]
  rfl

/-- A stage that failed is recorded with the text of its masked failure. -/
theorem record_of_eq_some {f : Failure} (h : v.failure? p runner = some f) :
    v.record p runner = .failed v.stage.id v.startedAt (v.took p runner) f.text := by
  unfold failure? at h
  unfold record
  split at h
  · cases h
  · cases h
    simp only [*]

/-- **The work of a stage is invoked once**, before its workloads are waited for. -/
theorem events_of_invoked (h : v.Invoked) :
    v.events p runner = .began v.stage.id :: (v.deeds p runner ++ v.waits p runner) := by
  unfold Invoked at h
  simp only [events, Pipeline.runStage, h, Pipeline.perform, waits, action, deeds, begun]
  cases ho : ((p.actions v.stage v.ctx).result runner (v.past ++ [.began v.stage.id])).outcome with
  | ok o => simp [ho, Attempt.events]
  | error f => simp [ho]

/-- Nothing is done for a stage whose work is not invoked. -/
theorem events_of_not_invoked (h : ¬v.Invoked) : v.events p runner = [] := by
  simp only [events, Pipeline.runStage]
  split
  · exact absurd ‹_› h
  · rfl

end Visit

namespace Pipeline

/-- The stages that a run comes to, of those that are left. -/
def visitsFrom (p : Pipeline) (runner : Runner) (total : Nat) :
    (number : Nat) → List Stage → Context → List Event → List Visit
  | _, [], _, _ => []
  | number, stage :: rest, ctx, past =>
    let v := Visit.come total number stage ctx past
    match v.failure? p runner with
    | none =>
      v :: visitsFrom p runner total (number + 1) rest (v.leaves p runner) (v.after p runner)
    | some _ => [v]

/-- **The stages that a run comes to**, in order. -/
def visits (p : Pipeline) (plan : Plan) (runner : Runner) (past : List Event) : List Visit :=
  p.visitsFrom runner plan.stages.length 1 plan.stages .empty past

/-! ### One round of the loop

Each statement is about the visit `v` to the first stage that is left. -/

section Round

variable {p : Pipeline} {runner : Runner} {past : List Event} {goal : Goal} {total number : Nat}
  {stage : Stage} {rest : List Stage} {ctx : Context} {r : Report} {v : Visit} {f : Failure}
  (hv : v = .come total number stage ctx past)

include hv

theorem visitsFrom_cons_of_none (h : v.failure? p runner = none) :
    p.visitsFrom runner total number (stage :: rest) ctx past =
      v :: p.visitsFrom runner total (number + 1) rest (v.leaves p runner) (v.after p runner) := by
  subst hv
  simp only [visitsFrom, h]

theorem visitsFrom_cons_of_some (h : v.failure? p runner = some f) :
    p.visitsFrom runner total number (stage :: rest) ctx past = [v] := by
  subst hv
  simp only [visitsFrom, h]

theorem result_runFrom_cons_of_none (h : v.failure? p runner = none) :
    (p.runFrom goal total number (stage :: rest) ctx r).result runner past =
      (p.runFrom goal total (number + 1) rest (v.leaves p runner)
        (r.add (v.record p runner))).result runner (v.after p runner) := by
  subst hv
  obtain ⟨o, ho⟩ := Visit.failure?_eq_none_iff.mp h
  simp only [Visit.come, Visit.work] at ho
  simp [runFrom, now, ho, Visit.record, Visit.work, Visit.leaves, Visit.after, Visit.events,
    Visit.come, Visit.startedAt, Visit.took]

theorem events_runFrom_cons_of_none (h : v.failure? p runner = none) :
    (p.runFrom goal total number (stage :: rest) ctx r).events runner past =
      v.history p runner total ++
        (p.runFrom goal total (number + 1) rest (v.leaves p runner)
          (r.add (v.record p runner))).events runner (v.after p runner) := by
  subst hv
  obtain ⟨o, ho⟩ := Visit.failure?_eq_none_iff.mp h
  simp only [Visit.come, Visit.work] at ho
  simp [runFrom, now, ho, Visit.history, Visit.record, Visit.work, Visit.leaves, Visit.after,
    Visit.events, Visit.come, Visit.startedAt, Visit.took]

theorem result_runFrom_cons_of_some (h : v.failure? p runner = some f) :
    (p.runFrom goal total number (stage :: rest) ctx r).result runner past =
      ((recordFailure r (v.record p runner) rest).finish
        (.afterEpoch (timeOf (v.after p runner))) (some f), .error f) := by
  subst hv
  rw [Visit.record_of_eq_some h]
  obtain ⟨f, ho, rfl⟩ := Visit.failure?_eq_some_iff.mp h
  simp only [Visit.come, Visit.work] at ho
  simp [runFrom, now, ho, Visit.work, Visit.after, Visit.events, Visit.come, Visit.configuration,
    Visit.startedAt, Visit.took]

theorem events_runFrom_cons_of_some (h : v.failure? p runner = some f) :
    (p.runFrom goal total number (stage :: rest) ctx r).events runner past =
      v.history p runner total := by
  subst hv
  obtain ⟨f, ho, rfl⟩ := Visit.failure?_eq_some_iff.mp h
  simp only [Visit.come, Visit.work] at ho
  simp [runFrom, now, ho, Visit.history, Visit.events, Visit.come]

end Round

/-! ### The run, read off its visits -/

/-- The failure that ends a run, if one does. -/
def failureOf (p : Pipeline) (runner : Runner) (visits : List Visit) : Option Failure :=
  visits.findSome? (Visit.failure? p runner)

/-- The result of a run that a failure has ended, or none. -/
def outcomeOf : Option Failure → Except Failure Unit
  | none => .ok ()
  | some f => .error f

/-- What is reported of the stages of a plan, given the visits of its run. -/
def recordsOf (p : Pipeline) (runner : Runner) (stages : List Stage) (visits : List Visit) :
    List StageRecord :=
  visits.map (Visit.record p runner) ++
    (stages.drop visits.length).map fun stage => .notRun stage.id

/-- What a run does for the stages that it comes to. -/
def historyOf (p : Pipeline) (runner : Runner) (total : Nat) (visits : List Visit) : List Event :=
  visits.flatMap fun v => v.history p runner total

theorem recordFailure_eq (r : Report) (record : StageRecord) (behind : List Stage) :
    recordFailure r record behind =
      r.addAll (record :: behind.map fun stage => .notRun stage.id) := by
  unfold recordFailure
  induction behind generalizing r record with
  | nil => rfl
  | cons stage behind ih =>
    rw [List.foldl_cons, ih (r.add record)]
    simp [Report.addAll, Report.add]

section Whole

variable (p : Pipeline) (goal : Goal) (total : Nat) (runner : Runner)

/-- **The report and the result of a run**, read off its visits: a record for each visit, then one
for each stage that the run did not come to. -/
theorem result_runFrom (number : Nat) (stages : List Stage) (ctx : Context) (r : Report)
    (past : List Event) :
    (p.runFrom goal total number stages ctx r).result runner past =
      let visits := p.visitsFrom runner total number stages ctx past
      ((r.addAll (p.recordsOf runner stages visits)).finish
          (.afterEpoch (timeOf (past ++ p.historyOf runner total visits)))
          (p.failureOf runner visits),
        outcomeOf (p.failureOf runner visits)) := by
  induction stages generalizing number ctx r past with
  | nil =>
    simp [runFrom, now, visitsFrom, recordsOf, historyOf, failureOf, outcomeOf, Report.addAll]
  | cons stage rest ih =>
    cases h : (Visit.come total number stage ctx past).failure? p runner with
    | none =>
      rw [result_runFrom_cons_of_none rfl h, visitsFrom_cons_of_none rfl h, ih]
      simp [recordsOf, historyOf, failureOf, h, Report.addAll, Report.add, Visit.after_come]
    | some f =>
      rw [result_runFrom_cons_of_some rfl h, visitsFrom_cons_of_some rfl h, recordFailure_eq]
      simp [recordsOf, historyOf, failureOf, h, outcomeOf, Visit.after_come]

/-- **The history of a run**, read off its visits. -/
theorem events_runFrom (number : Nat) (stages : List Stage) (ctx : Context) (r : Report)
    (past : List Event) :
    (p.runFrom goal total number stages ctx r).events runner past =
      let visits := p.visitsFrom runner total number stages ctx past
      p.historyOf runner total visits ++
        match p.failureOf runner visits with
        | none => [.shown (finishLine goal total)]
        | some _ => [] := by
  induction stages generalizing number ctx r past with
  | nil => simp [runFrom, now, visitsFrom, historyOf, failureOf]
  | cons stage rest ih =>
    cases h : (Visit.come total number stage ctx past).failure? p runner with
    | none =>
      rw [events_runFrom_cons_of_none rfl h, visitsFrom_cons_of_none rfl h, ih]
      simp [historyOf, failureOf, h]
    | some f =>
      rw [events_runFrom_cons_of_some rfl h, visitsFrom_cons_of_some rfl h]
      simp [historyOf, failureOf, h]

/-! ### The shape of a run -/

theorem number_visitsFrom (number : Nat) (stages : List Stage) (ctx : Context)
    (past : List Event) :
    (p.visitsFrom runner total number stages ctx past).map Visit.number =
      List.range' number (p.visitsFrom runner total number stages ctx past).length := by
  induction stages generalizing number ctx past with
  | nil => rfl
  | cons stage rest ih =>
    cases h : (Visit.come total number stage ctx past).failure? p runner with
    | none =>
      rw [visitsFrom_cons_of_none rfl h, List.map_cons, ih]
      rfl
    | some f =>
      rw [visitsFrom_cons_of_some rfl h]
      rfl

/-- What the stages share behind some visits, where they share `ctx` before them. -/
def sharedBehind (p : Pipeline) (runner : Runner) (ctx : Context) (visits : List Visit) : Context :=
  (visits.getLast?.map (Visit.leaves p runner)).getD ctx

/-- **What is known at a visit**: the run has come to it through visits that did not fail, and they
are what has happened before; what it finds is what the last of them leaves. -/
theorem visitsFrom_split {number : Nat} {stages : List Stage} {ctx : Context} {past : List Event}
    {before after : List Visit} {v : Visit}
    (h : p.visitsFrom runner total number stages ctx past = before ++ v :: after) :
    (∃ behind, stages = before.map Visit.stage ++ v.stage :: behind) ∧
      v.number = number + before.length ∧
      v.ctx = p.sharedBehind runner ctx before ∧
      v.past = past ++ p.historyOf runner total before ++
        [.shown (stageLine total v.number v.stage)] ∧
      (∀ w ∈ before, w.failure? p runner = none) ∧
      ∀ f, v.failure? p runner = some f → after = [] := by
  induction before generalizing number stages ctx past with
  | nil =>
    rcases stages with _ | ⟨stage, rest⟩
    · cases h
    · cases hf : (Visit.come total number stage ctx past).failure? p runner with
      | none =>
        rw [visitsFrom_cons_of_none rfl hf] at h
        obtain ⟨rfl, rfl⟩ := List.cons.inj h
        simp [historyOf, hf, sharedBehind]
      | some f =>
        rw [visitsFrom_cons_of_some rfl hf] at h
        obtain ⟨rfl, rfl⟩ := List.cons.inj h
        simp [historyOf, sharedBehind]
  | cons w before ih =>
    rcases stages with _ | ⟨stage, rest⟩
    · cases h
    · -- the run has gone on behind `w`, so `w` did not fail
      cases hf : (Visit.come total number stage ctx past).failure? p runner with
      | none =>
        rw [visitsFrom_cons_of_none rfl hf] at h
        obtain ⟨rfl, htail⟩ := List.cons.inj h
        obtain ⟨⟨behind, rfl⟩, hnumber, hctx, hpast, hgood, hlast⟩ := ih htail
        refine ⟨⟨behind, rfl⟩, ?_, ?_, ?_, ?_, hlast⟩
        · rw [hnumber, List.length_cons]
          omega
        · rw [hctx, sharedBehind, sharedBehind, List.getLast?_cons]
          cases before.getLast? <;> rfl
        · rw [hpast, Visit.after_come]
          simp [historyOf]
        · intro u hu
          rcases List.mem_cons.mp hu with rfl | hu
          · exact hf
          · exact hgood u hu
      | some f =>
        rw [visitsFrom_cons_of_some rfl hf] at h
        simp at h

/-- **The two ways in which a run ends**: it has come to every stage, or the stage that it came to
last failed. -/
theorem visitsFrom_end (number : Nat) (stages : List Stage) (ctx : Context) (past : List Event) :
    let visits := p.visitsFrom runner total number stages ctx past
    (visits.map Visit.stage = stages ∧ ∀ v ∈ visits, v.failure? p runner = none) ∨
      ∃ before v f behind, visits = before ++ [v] ∧ v.failure? p runner = some f ∧
        stages = before.map Visit.stage ++ v.stage :: behind := by
  induction stages generalizing number ctx past with
  | nil => exact .inl ⟨rfl, nofun⟩
  | cons stage rest ih =>
    cases hf : (Visit.come total number stage ctx past).failure? p runner with
    | none =>
      rw [visitsFrom_cons_of_none rfl hf]
      -- the run ends as the rest of it does, which begins behind this visit
      rcases ih (number + 1) _ _ with ⟨hall, hgood⟩ | ⟨before, v, f, behind, hvisits, hv, hstages⟩
      · refine .inl ⟨congrArg (stage :: ·) hall, fun v hv => ?_⟩
        rcases List.mem_cons.mp hv with rfl | hv
        · exact hf
        · exact hgood v hv
      · refine .inr ⟨_ :: before, v, f, behind, congrArg (_ :: ·) hvisits, hv, ?_⟩
        exact congrArg (stage :: ·) hstages
    | some f =>
      rw [visitsFrom_cons_of_some rfl hf]
      exact .inr ⟨[], _, f, rest, rfl, hf, rfl⟩

variable {p runner total} in
/-- **An invariant of what the stages of a run share**: what holds at first, and is preserved by
every stage that does not fail, holds wherever the run comes. -/
theorem ctx_of_mem_visitsFrom {P : Context → Prop}
    (hstep : ∀ v : Visit, P v.ctx → v.failure? p runner = none → P (v.leaves p runner))
    {number : Nat} {stages : List Stage} {ctx : Context} {past : List Event} (h : P ctx) {v : Visit}
    (hv : v ∈ p.visitsFrom runner total number stages ctx past) : P v.ctx := by
  induction stages generalizing number ctx past with
  | nil => cases hv
  | cons stage rest ih =>
    cases hf : (Visit.come total number stage ctx past).failure? p runner with
    | none =>
      rw [visitsFrom_cons_of_none rfl hf] at hv
      rcases List.mem_cons.mp hv with rfl | hv
      · exact h
      · exact ih (hstep _ h hf) hv
    | some f =>
      rw [visitsFrom_cons_of_some rfl hf] at hv
      obtain rfl := List.mem_singleton.mp hv
      exact h

end Whole

/-! ### Whole runs -/

section Run

variable (p : Pipeline) (plan : Plan) (r : Report) (runner : Runner) (past : List Event)

theorem result_run :
    (p.run plan r).result runner past =
      ((r.addAll (p.recordsOf runner plan.stages (p.visits plan runner past))).finish
          (.afterEpoch (timeOf (past ++
            p.historyOf runner plan.stages.length (p.visits plan runner past))))
          (p.failureOf runner (p.visits plan runner past)),
        outcomeOf (p.failureOf runner (p.visits plan runner past))) :=
  p.result_runFrom plan.goal plan.stages.length runner 1 plan.stages .empty r past

/-- A run returns what its visits fail with. -/
theorem outcome_run :
    ((p.run plan r).result runner past).2 =
      outcomeOf (p.failureOf runner (p.visits plan runner past)) := by
  rw [result_run]

/-- The report of a run that starts with a new one has the records of its visits. -/
theorem records_run (command : String) (began : Timestamp) :
    ((p.run plan (.begin command began)).result runner past).1.stages =
      p.recordsOf runner plan.stages (p.visits plan runner past) := by
  rw [result_run]
  rfl

theorem events_run :
    (p.run plan r).events runner past =
      p.historyOf runner plan.stages.length (p.visits plan runner past) ++
        match p.failureOf runner (p.visits plan runner past) with
        | none => [.shown (finishLine plan.goal plan.stages.length)]
        | some _ => [] :=
  p.events_runFrom plan.goal plan.stages.length runner 1 plan.stages .empty r past

/-- All calls of a run are made for its stages. -/
theorem callsOf_run :
    callsOf ((p.run plan r).events runner past) =
      callsOf (p.historyOf runner plan.stages.length (p.visits plan runner past)) := by
  rw [events_run, callsOf_append]
  cases p.failureOf runner (p.visits plan runner past) <;> exact List.append_nil _

/-- What is known at a visit of a whole run. -/
theorem visits_split {before after : List Visit} {v : Visit}
    (h : p.visits plan runner past = before ++ v :: after) :
    (∃ behind, plan.stages = before.map Visit.stage ++ v.stage :: behind) ∧
      v.ctx = p.sharedBehind runner .empty before ∧
      (∀ w ∈ before, w.failure? p runner = none) ∧
      ∀ f, v.failure? p runner = some f → after = [] := by
  obtain ⟨hstages, -, hctx, -, hgood, hlast⟩ := p.visitsFrom_split _ runner h
  exact ⟨hstages, hctx, hgood, hlast⟩

/-- **Where no stage leaves one out**, all stages that the run has come to before are completed. -/
theorem completed_of_come_to {before after : List Visit} {v : Visit}
    (h : p.visits plan runner past = before ++ v :: after)
    (hnone : ∀ w ∈ before, w.LeavesNoneOut p runner) {w : Visit} (hw : w ∈ before) :
    w.stage.id ∈ v.ctx.completed := by
  induction before using List.reverseRecOn generalizing v after with
  | nil => cases hw
  | append_singleton before u ih =>
    rw [(p.visits_split plan runner past h).2.1, sharedBehind, List.getLast?_concat]
    refine List.mem_append.mpr ?_
    rcases List.mem_append.mp hw with hw | hw
    · refine .inl (hnone u (List.mem_append_right _ List.mem_cons_self) _ ?_)
      exact ih (by rw [h, List.append_assoc]; rfl) (fun u hu => hnone u (List.mem_append_left _ hu)) hw
    · exact .inr (List.mem_singleton.mpr (by rw [List.mem_singleton.mp hw]))

/-- The two ways in which a run ends, with all that is known of its visits. -/
theorem visits_end :
    ((p.visits plan runner past).map Visit.stage = plan.stages ∧
      ∀ v ∈ p.visits plan runner past, v.failure? p runner = none) ∨
    ∃ before v f behind, p.visits plan runner past = before ++ [v] ∧
      (∀ w ∈ before, w.failure? p runner = none) ∧ v.failure? p runner = some f ∧
      plan.stages = before.map Visit.stage ++ v.stage :: behind := by
  rcases p.visitsFrom_end plan.stages.length runner 1 plan.stages .empty past with
    hall | ⟨before, v, f, behind, hvisits, hv, hstages⟩
  · exact .inl hall
  · obtain ⟨-, -, hgood, -⟩ := p.visits_split plan runner past hvisits
    exact .inr ⟨before, v, f, behind, hvisits, hgood, hv, hstages⟩

theorem stage_visits_prefix : (p.visits plan runner past).map Visit.stage <+: plan.stages := by
  rcases p.visits_end plan runner past with
    ⟨hall, -⟩ | ⟨before, v, f, behind, hvisits, -, -, hstages⟩
  · exact ⟨[], by rw [List.append_nil, hall]⟩
  · exact ⟨behind, by rw [hvisits, hstages]; simp⟩

end Run

end Pipeline

end Rollout
