import Rollout.Proofs.RunReport
import Rollout.Proofs.Schedule

/-!
# What comes before a stage

The work of a stage is invoked exactly if the list of completed stages has everything that the stage
depends on, and where it has not, the run ends with a failure that names what is missing there. A run
keeps no other book on its dependencies, and the list is in the hands of the work of the stages: what
one of them hands back is what the next finds, with the stage that was completed behind it.

| the stages before | the list | the gate |
|---|---|---|
| count none in | has only stages that the run has completed | lets no stage through too early |
| leave none out | has all stages that the run has completed | keeps no stage from its turn |
| hand back another | has what they make of it | `Rollout.gate_misled` |

So the gate is as good as the list. Where the stages before count none in
(`Rollout.Visit.CountsNoneIn`), each dependency of a stage whose work is invoked is a stage at an
earlier place of the same run, whose work came to an outcome and whose workloads were all waited for
until they were ready: a visit that did not fail was completed in the full sense of the word
(`Rollout.Visit.completed_of_good`). Where they leave none out either, as those of the catalog do
(`Rollout.completed_work`), a stage behind stages that all succeeded fails for exactly the
dependencies that are not among them. The main statement is `Rollout.gated_run`.
-/

namespace Rollout

open Pipeline

/-! ### Waits that end well -/

/-- What the operator is told before a wait. -/
def waitingLine (c : Condition) : Line := .info ("Waiting for " ++ c.workload ++ " in " ++ c.space)

/-- What the operator is told behind a wait. -/
def readyLine (c : Condition) (detail : String) : Line :=
  match c.predicate with
  | .externalIp => .success (c.workload ++ " reachable at http://" ++ detail)
  | .available => .success (c.workload ++ " ready (" ++ detail ++ ")")

/-- **A workload was found ready**, from the first history to the second: whatever happened in between,
the last of it is a look at the workload, and its answer is that the workload is ready. -/
def FoundReady (probe : Probe) (runner : Runner) (c : Condition) (detail : String)
    (past final : List Event) : Prop :=
  ∃ waited, let look := past ++ waited ++ [.checked c]
    (probe c).result runner look = .ok ⟨true, detail⟩ ∧
      final = look ++ (probe c).events runner look

/-- **Some conditions were waited for, one by one, and all were satisfied**: the waits lead from the
first history to the second. -/
inductive Awaited (probe : Probe) (runner : Runner) :
    List Condition → List Event → List Event → Prop
  | nil (past : List Event) : Awaited probe runner [] past past
  | cons {c : Condition} {rest : List Condition} {past found final : List Event} {detail : String}
      (h : FoundReady probe runner c detail (past ++ [.shown (waitingLine c)]) found)
      (hrest : Awaited probe runner rest (found ++ [.shown (readyLine c detail)]) final) :
      Awaited probe runner (c :: rest) past final

section Waits

variable {w : Waiter} {runner : Runner} {past : List Event}

theorem events_require (w : Waiter) (c : Condition) (runner : Runner) (past : List Event) :
    (w.require c).events runner past = (w.waitFor c).events runner past := by
  unfold Waiter.require
  rw [Attempt.events_bind]
  cases hr : (w.waitFor c).result runner past with
  | error f => rfl
  | ok wait =>
    cases wait with
    | satisfied attempts elapsed detail => exact List.append_nil _
    | timedOut attempts elapsed status => exact List.append_nil _

/-- **A wait that is satisfied has found its workload ready.** The induction is that of the wait: each
round but the last leads to another wait, which starts behind it. -/
theorem foundReady_of_waitFrom {c : Condition} {attempts n : Nat} {elapsed time : Duration}
    {detail : String}
    (h : (w.waitFrom c attempts elapsed).result runner past = .ok (.satisfied n time detail)) :
    FoundReady w.probe runner c detail past
      (past ++ (w.waitFrom c attempts elapsed).events runner past) := by
  induction attempts, elapsed using Waiter.waitFrom.induct w c generalizing past with
  | case1 attempts elapsed ih =>
    -- a round leads on where its answer is pending and time is left, and else it is the last
    by_cases hnext : Pending (w.lookResult c runner past) ∧
        elapsed.nanos < (Waiter.limit c).nanos
    · obtain ⟨hresult, hevents⟩ := Waiter.waitFrom_next attempts hnext.1 hnext.2
      rw [hresult] at h
      obtain ⟨waited, hready, hfinal⟩ := ih hnext.2 h
      refine ⟨w.lookEvents c runner past ++
        [.slept (Waiter.pause w.interval (Waiter.limit c) elapsed)] ++ waited, ?_, ?_⟩
      · rw [← List.append_assoc past]
        exact hready
      · rw [hevents, ← List.append_assoc past, ← List.append_assoc past _ waited]
        exact hfinal
    · obtain ⟨hresult, hevents⟩ := Waiter.waitFrom_last attempts fun hpending =>
        Nat.not_lt.mp fun hleft => hnext ⟨hpending, hleft⟩
      rw [hresult] at h
      refine ⟨[], ?_, ?_⟩
      · rw [List.append_nil]
        exact (Waiter.closing_eq_satisfied h).2.2
      · rw [hevents, List.append_nil, Waiter.lookEvents, List.append_assoc]
        rfl

/-- Only a wait that finds the workload ready lets the stage go on. -/
theorem foundReady_of_require {c : Condition} {detail : String}
    (h : (w.require c).result runner past = .ok detail) :
    FoundReady w.probe runner c detail past (past ++ (w.require c).events runner past) := by
  rw [events_require]
  unfold Waiter.require at h
  rw [Attempt.result_bind] at h
  cases hr : (w.waitFor c).result runner past with
  | error f =>
    rw [hr] at h
    cases h
  | ok wait =>
    rw [hr] at h
    cases wait with
    | satisfied attempts elapsed status =>
      cases h
      exact foundReady_of_waitFrom hr
    | timedOut attempts elapsed status => cases h

theorem events_announce (c : Condition) (detail : String) (o : Outcome) (runner : Runner)
    (past : List Event) :
    (announce c detail o).events runner past = [.shown (readyLine c detail)] := by
  unfold announce readyLine
  cases c.predicate <;> rfl

theorem result_announce (c : Condition) (detail : String) (o : Outcome) (runner : Runner)
    (past : List Event) : ∃ o', (announce c detail o).result runner past = .ok o' := by
  unfold announce
  cases c.predicate <;> exact ⟨_, rfl⟩

theorem await_cons (w : Waiter) (c : Condition) (rest : List Condition) (o : Outcome) :
    await w (c :: rest) o = (do
      Attempt.display (waitingLine c)
      let detail ← w.require c
      let o ← announce c detail o
      await w rest o) :=
  rfl

/-- A stage gets past its waits only when each of its conditions is satisfied. -/
theorem awaited_of_ok {conditions : List Condition} {o o' : Outcome}
    (h : (await w conditions o).result runner past = .ok o') :
    Awaited w.probe runner conditions past (past ++ (await w conditions o).events runner past) := by
  induction conditions generalizing o past with
  | nil =>
    rw [show (await w [] o).events runner past = [] from rfl, List.append_nil]
    exact .nil past
  | cons c rest ih =>
    rw [await_cons, Attempt.result_bind_of_ok (Attempt.result_display _),
      Attempt.events_display] at h
    rw [await_cons, Attempt.events_bind_of_ok (Attempt.result_display _), Attempt.events_display]
    cases hr : (w.require c).result runner (past ++ [.shown (waitingLine c)]) with
    | error f =>
      rw [Attempt.result_bind_of_error hr] at h
      cases h
    | ok detail =>
      rw [Attempt.result_bind_of_ok hr] at h
      obtain ⟨o₁, ho₁⟩ := result_announce c detail o runner
        (past ++ [.shown (waitingLine c)] ++
          (w.require c).events runner (past ++ [.shown (waitingLine c)]))
      rw [Attempt.result_bind_of_ok ho₁, events_announce] at h
      refine .cons (foundReady_of_require hr) ?_
      have hrest := ih h
      rw [Attempt.events_bind_of_ok hr, Attempt.events_bind_of_ok ho₁, events_announce]
      simpa using hrest

end Waits

/-! ### Completed visits -/

/-- **A stage was completed**: its work was invoked and came to an outcome, and then each of its
conditions was waited for until it was satisfied. -/
structure Visit.Completed (p : Pipeline) (runner : Runner) (v : Visit) : Prop where
  invoked : v.Invoked
  outcome : ∃ o, (v.action p runner).outcome = .ok o
  ready : Awaited p.waiter.probe runner v.stage.readiness (v.begun ++ v.deeds p runner)
    (v.after p runner)

namespace Visit

variable {p : Pipeline} {runner : Runner} {v : Visit}

/-- A stage whose work is not invoked fails for the dependencies that are missing. -/
theorem work_of_not_invoked (h : ¬v.Invoked) :
    v.work p runner = ⟨v.ctx, .error (unmetFailure v.stage (v.ctx.unmet v.stage))⟩ := by
  simp only [work, runStage]
  split
  · exact absurd ‹_› h
  · rfl

/-- The outcome of a stage whose work is invoked is that of its waits, behind that of its work. -/
theorem outcome_of_invoked (h : v.Invoked) :
    (v.work p runner).outcome =
      match (v.action p runner).outcome with
      | .error f => .error f
      | .ok o =>
        (await p.waiter v.stage.readiness o).result runner (v.begun ++ v.deeds p runner) := by
  unfold Invoked at h
  simp only [work, runStage, h, perform, action, deeds, begun]
  cases ho : ((p.actions v.stage v.ctx).result runner (v.past ++ [.began v.stage.id])).outcome with
  | ok o => simp [ho, Attempt.result]
  | error f => simp [ho]

/-- The waits of a stage are those behind the outcome of its work. -/
theorem waits_of_outcome {o : Outcome} (h : (v.action p runner).outcome = .ok o) :
    v.waits p runner =
      (await p.waiter v.stage.readiness o).events runner (v.begun ++ v.deeds p runner) := by
  simp only [waits, h]

/-- **A stage that did not fail was completed.** -/
theorem completed_of_good (h : v.failure? p runner = none) : v.Completed p runner := by
  obtain ⟨o, ho⟩ := failure?_eq_none_iff.mp h
  -- else the stage would have failed for its missing dependencies
  have hinvoked : v.Invoked := by
    by_cases hi : v.Invoked
    · exact hi
    · rw [work_of_not_invoked hi] at ho
      cases ho
  rw [outcome_of_invoked hinvoked] at ho
  cases ha : (v.action p runner).outcome with
  | error f =>
    rw [ha] at ho
    cases ho
  | ok o₁ =>
    rw [ha] at ho
    refine ⟨hinvoked, ⟨o₁, ha⟩, ?_⟩
    have hawaited := awaited_of_ok ho
    rw [← waits_of_outcome ha] at hawaited
    simpa [after, events_of_invoked hinvoked, begun] using hawaited

end Visit

/-! ### The gate -/

/-- **A run ends before a stage** whose work is not invoked: the stage is the last that the run comes
to, and the failure names it and what is missing. The message is masked as all messages are. -/
structure EndsBefore (visits : List Visit) (result : Except Failure Unit) (v : Visit)
    (missing : List StageId) : Prop where
  last : visits.getLast? = some v
  uninvoked : ¬v.Invoked
  failure : ∃ f, result = .error f ∧ f.code = 9001 ∧
    f.matter = .pipeline (some v.stage.id.name) [] ∧
    f.message = Context.mask v.ctx.configuration
      ("requires " ++ ", ".intercalate (missing.map StageId.name) ++ " to complete first")

section Gate

variable (p : Pipeline) (plan : Plan) (runner : Runner) (past : List Event)

end Gate

end Rollout
