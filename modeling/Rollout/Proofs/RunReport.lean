import Rollout.Proofs.Visits

/-!
# The report of a run

The report of a run agrees with the run: it has a record for each planned stage, says of each stage
what became of it, and ends with the outcome that the run itself returns. Nothing is assumed of the
plan, whose stages may repeat, come in any order and depend on anything, nor of the work of the
stages, which may hand back anything for what the stages share, the looks at workloads and the
answers to commands.

What is to be agreed with is the list of visits of the run. `Rollout.Invokes` says how the history
of the run consists of them, and with them of the work of the stages; `Rollout.Report.Tells` says
what the report has of them. The main statement, `Rollout.report_of_run`, is that both hold of every
run that starts with a new report. Its proof only reads: the visits have one of two shapes
(`Rollout.Pipeline.visitsFrom_end`), and the report is known in terms of them
(`Rollout.Pipeline.result_run`).
-/

namespace Rollout

/-! ### What is to be shown -/

/-- **How a run invokes the work of its stages**: it comes to the first stages of the plan, in order
and to each place once; that is all that happens; and at each place the work is invoked once or not
at all. -/
structure Invokes (p : Pipeline) (plan : Plan) (runner : Runner) (visits : List Visit)
    (events : List Event) : Prop where
  inOrder : visits.map Visit.stage <+: plan.stages
  atPlace : visits.map Visit.number = List.range' 1 visits.length
  history : ∃ closing, events = p.historyOf runner plan.stages.length visits ++ closing ∧
    ∀ e ∈ closing, e = .shown (Pipeline.finishLine plan.goal plan.stages.length)
  once : ∀ v ∈ visits, v.Invoked →
    v.events p runner = .began v.stage.id :: (v.deeds p runner ++ v.waits p runner)
  never : ∀ v ∈ visits, ¬v.Invoked → v.events p runner = []

/-- **What a report tells of a failure**: its code and what that stands for, the exit status, its text
and what the operator can do about it. -/
structure ReportError.TellsOf (f : Failure) (e : ReportError) : Prop where
  code : e.code = f.code
  description : e.description = FailureCode.describe f.code
  exitStatus : e.exitStatus = f.exitStatus
  message : e.message = f.text
  remediation : e.remediation = f.remediation?

/-- **What a report tells of a run**, given the stages that were planned, the visits of the run and
how it ended. -/
structure Report.Tells (p : Pipeline) (runner : Runner) (stages : List Stage) (visits : List Visit)
    (result : Except Failure Unit) (r : Report) : Prop where
  /-- Each planned stage has its record. -/
  planned : r.stages.map StageRecord.stage = stages.map Stage.id
  /-- Either every stage was visited and succeeded; or the last one visited failed, those before it
  succeeded, and those behind it were not run. -/
  statuses :
    (visits.map Visit.stage = stages ∧
      r.stages.map StageRecord.status = List.replicate stages.length .succeeded) ∨
    ∃ before stage behind, stages = before ++ stage :: behind ∧
      visits.map Visit.stage = before ++ [stage] ∧
      r.stages.map StageRecord.status =
        List.replicate before.length .succeeded ++
          .failed :: List.replicate behind.length .notRun
  executed : r.executed = visits.map fun v => v.stage.id
  finished : r.finishedAt.isSome
  success_iff : r.success = true ↔ result = .ok ()
  error_iff : r.error = none ↔ result = .ok ()
  failed_iff : (∀ record ∈ r.stages, record.status ≠ .failed) ↔ result = .ok ()
  /-- The failure that the run returns is the one that is reported, and its text that of the stage
  that failed. -/
  failure : ∀ f, result = .error f → (∃ e, r.error = some e ∧ e.TellsOf f) ∧
    ∀ record ∈ r.stages, record.status = .failed → record.error = some f.text
  /-- That failure is the one of the last stage that was visited, masked. -/
  masked : ∀ f, result = .error f → ∃ v f', visits.getLast? = some v ∧
    (v.work p runner).outcome = .error f' ∧
    f'.masked (Context.mask (v.configuration p runner)) = f

/-! ### Records -/

namespace Visit

variable {p : Pipeline} {runner : Runner} {v : Visit}

theorem status_record_ne_notRun : (v.record p runner).status ≠ .notRun := by
  cases h : v.failure? p runner with
  | none =>
    rw [status_record_of_eq_none h]
    exact nofun
  | some f =>
    rw [record_of_eq_some h]
    exact nofun

end Visit

namespace Pipeline

variable {p : Pipeline} {runner : Runner} {visits before : List Visit} {v : Visit} {f : Failure}

theorem recordsOf_append (behind : List Stage) :
    p.recordsOf runner (visits.map Visit.stage ++ behind) visits =
      visits.map (Visit.record p runner) ++ behind.map fun stage => .notRun stage.id := by
  rw [recordsOf, List.drop_left' (List.length_map ..)]

theorem map_stage_recordsOf {stages : List Stage} (h : visits.map Visit.stage <+: stages) :
    (p.recordsOf runner stages visits).map StageRecord.stage = stages.map Stage.id := by
  obtain ⟨behind, rfl⟩ := h
  rw [recordsOf_append]
  simp [StageRecord.notRun, Function.comp_def]

/-- The records of the stages that were visited are those that do not say that the stage was not
run. -/
theorem filter_recordsOf (stages : List Stage) :
    (p.recordsOf runner stages visits).filter (fun record => record.status ≠ .notRun) =
      visits.map (Visit.record p runner) := by
  rw [recordsOf, List.filter_append, List.filter_eq_self.mpr, List.filter_eq_nil_iff.mpr,
    List.append_nil]
  · intro record hrecord
    obtain ⟨stage, -, rfl⟩ := List.mem_map.mp hrecord
    exact fun h => of_decide_eq_true h rfl
  · intro record hrecord
    obtain ⟨v, -, rfl⟩ := List.mem_map.mp hrecord
    exact decide_eq_true Visit.status_record_ne_notRun

/-- Visits that did not fail are recorded as successes. -/
theorem map_status_of_good (h : ∀ w ∈ visits, w.failure? p runner = none) :
    (visits.map (Visit.record p runner)).map StageRecord.status =
      List.replicate visits.length .succeeded := by
  rw [List.map_map]
  refine List.eq_replicate_iff.mpr ⟨List.length_map .., fun status hstatus => ?_⟩
  obtain ⟨w, hw, rfl⟩ := List.mem_map.mp hstatus
  exact Visit.status_record_of_eq_none (h w hw)

theorem map_status_of_failed (h : ∀ w ∈ before, w.failure? p runner = none)
    (hv : v.failure? p runner = some f) (behind : List Stage) :
    (p.recordsOf runner (before.map Visit.stage ++ v.stage :: behind) (before ++ [v])).map
        StageRecord.status =
      List.replicate before.length .succeeded ++
        .failed :: List.replicate behind.length .notRun := by
  have hsplit : before.map Visit.stage ++ v.stage :: behind =
      (before ++ [v]).map Visit.stage ++ behind := by simp
  rw [hsplit, recordsOf_append, List.map_append, List.map_append, List.map_append,
    map_status_of_good h]
  simp [Visit.record_of_eq_some hv, StageRecord.failed, StageRecord.notRun, Function.comp_def,
    List.map_const']

/-! ### How a run ends -/

theorem failureOf_of_good (h : ∀ w ∈ visits, w.failure? p runner = none) :
    p.failureOf runner visits = none :=
  List.findSome?_eq_none_iff.mpr h

theorem failureOf_of_failed (h : ∀ w ∈ before, w.failure? p runner = none)
    (hv : v.failure? p runner = some f) : p.failureOf runner (before ++ [v]) = some f := by
  have hbefore : before.findSome? (Visit.failure? p runner) = none := failureOf_of_good h
  simp [failureOf, List.findSome?_append, hbefore, hv]

theorem outcomeOf_eq_ok_iff {failure : Option Failure} :
    outcomeOf failure = .ok () ↔ failure = none := by
  cases failure <;> simp [outcomeOf]

theorem outcomeOf_eq_error_iff {failure : Option Failure} :
    outcomeOf failure = .error f ↔ failure = some f := by
  cases failure <;> simp [outcomeOf]

/-- **A record is that of a visit** or, behind the visits, of a stage that was not run. -/
theorem getElem?_recordsOf {stages : List Stage} {i : Nat} {record : StageRecord}
    (h : (p.recordsOf runner stages visits)[i]? = some record) :
    (∃ v, visits[i]? = some v ∧ record = v.record p runner) ∨
      visits[i]? = none ∧ ∃ stage, stages[i]? = some stage ∧ record = .notRun stage.id := by
  rw [recordsOf] at h
  rcases Nat.lt_or_ge i visits.length with hi | hi
  · rw [List.getElem?_append_left (by rwa [List.length_map]), List.getElem?_map] at h
    obtain ⟨v, hv, rfl⟩ := Option.map_eq_some_iff.mp h
    exact .inl ⟨v, hv, rfl⟩
  · rw [List.getElem?_append_right (by rwa [List.length_map]), List.length_map, List.getElem?_map,
      List.getElem?_drop, Nat.add_sub_cancel' hi] at h
    obtain ⟨stage, hstage, rfl⟩ := Option.map_eq_some_iff.mp h
    exact .inr ⟨List.getElem?_eq_none hi, stage, hstage, rfl⟩

theorem mem_recordsOf {stages : List Stage} {record : StageRecord}
    (h : record ∈ p.recordsOf runner stages visits) (hfailed : record.status = .failed) :
    ∃ w ∈ visits, record = w.record p runner := by
  rcases List.mem_append.mp h with h | h
  · obtain ⟨w, hw, rfl⟩ := List.mem_map.mp h
    exact ⟨w, hw, rfl⟩
  · obtain ⟨stage, -, rfl⟩ := List.mem_map.mp h
    cases hfailed

end Pipeline

/-! ### The report agrees with the run -/

section Agreement

variable (p : Pipeline) (plan : Plan) (runner : Runner) (past : List Event)

open Pipeline

theorem invokes_run (r : Report) :
    Invokes p plan runner (p.visits plan runner past) ((p.run plan r).events runner past) where
  inOrder := stage_visits_prefix p plan runner past
  atPlace := number_visitsFrom ..
  history := by
    rw [events_run]
    refine ⟨_, rfl, fun e he => ?_⟩
    split at he
    · exact List.mem_singleton.mp he
    · cases he
  once _ _ h := Visit.events_of_invoked h
  never _ _ h := Visit.events_of_not_invoked h

/-- A record that says that a stage failed is that of the failure that ended the run. -/
theorem error_of_failed {record : StageRecord}
    (h : record ∈ p.recordsOf runner plan.stages (p.visits plan runner past))
    (hfailed : record.status = .failed) :
    ∃ f, p.failureOf runner (p.visits plan runner past) = some f ∧ record.error = some f.text := by
  obtain ⟨w, hw, rfl⟩ := mem_recordsOf h hfailed
  -- a visit that is recorded as a failure did fail, and only the last one can have
  have hnone : w.failure? p runner ≠ none := by
    intro hnone
    rw [Visit.status_record_of_eq_none hnone] at hfailed
    cases hfailed
  rcases p.visits_end plan runner past with
    ⟨-, hgood⟩ | ⟨before, v, f, behind, hvisits, hgood, hv, -⟩
  · exact absurd (hgood w hw) hnone
  · rw [hvisits] at hw ⊢
    rcases List.mem_append.mp hw with hw | hw
    · exact absurd (hgood w hw) hnone
    · obtain rfl := List.mem_singleton.mp hw
      refine ⟨f, failureOf_of_failed hgood hv, ?_⟩
      rw [Visit.record_of_eq_some hv]
      rfl

/-- A run that a failure has ended has a record that says so. -/
theorem exists_failed {f : Failure}
    (h : p.failureOf runner (p.visits plan runner past) = some f) :
    ∃ record ∈ p.recordsOf runner plan.stages (p.visits plan runner past),
      record.status = .failed := by
  obtain ⟨v, hv, hfailure⟩ := List.exists_of_findSome?_eq_some h
  refine ⟨v.record p runner, List.mem_append_left _ (List.mem_map_of_mem hv), ?_⟩
  rw [Visit.record_of_eq_some hfailure]
  rfl

/-- No record says that a stage failed exactly when no failure has ended the run. -/
theorem forall_ne_failed_iff :
    (∀ record ∈ p.recordsOf runner plan.stages (p.visits plan runner past),
      record.status ≠ .failed) ↔ p.failureOf runner (p.visits plan runner past) = none := by
  constructor
  · intro hnone
    cases hf : p.failureOf runner (p.visits plan runner past) with
    | none => rfl
    | some f =>
      obtain ⟨record, hrecord, hfailed⟩ := exists_failed p plan runner past hf
      exact absurd hfailed (hnone record hrecord)
  · intro hnone record hrecord hfailed
    obtain ⟨f, hf, -⟩ := error_of_failed p plan runner past hrecord hfailed
    rw [hnone] at hf
    cases hf

/-- **A run that fails ends with what is done for a stage that fails.** -/
theorem failed_of_run {r : Report} {f : Failure}
    (h : ((p.run plan r).result runner past).2 = .error f) :
    ∃ v ∈ p.visits plan runner past, v.failure? p runner = some f ∧ ∃ front,
      (p.run plan r).events runner past = front ++ v.events p runner ∧ past ++ front = v.past := by
  rw [outcome_run] at h
  have hfailure := outcomeOf_eq_error_iff.mp h
  rcases p.visits_end plan runner past with ⟨-, hgood⟩ | ⟨before, v, f', -, hvisits, hgood, hv, -⟩
  · rw [failureOf_of_good hgood] at hfailure
    cases hfailure
  · rw [hvisits, failureOf_of_failed hgood hv] at hfailure
    obtain rfl := Option.some.inj hfailure
    obtain ⟨-, -, -, hpast, -, -⟩ := p.visitsFrom_split plan.stages.length runner hvisits
    refine ⟨v, hvisits ▸ List.mem_append_right _ List.mem_cons_self, hv,
      p.historyOf runner plan.stages.length before ++
        [.shown (stageLine plan.stages.length v.number v.stage)], ?_, ?_⟩
    · rw [Pipeline.events_run, hvisits, failureOf_of_failed hgood hv, historyOf,
        List.flatMap_append]
      simp [historyOf, Visit.history]
    · rw [hpast, List.append_assoc]

/-- The failure that ends a run is that of the last stage visited, masked. -/
theorem masked_of_failureOf {f : Failure}
    (h : p.failureOf runner (p.visits plan runner past) = some f) :
    ∃ v f', (p.visits plan runner past).getLast? = some v ∧
      (v.work p runner).outcome = .error f' ∧
      f'.masked (Context.mask (v.configuration p runner)) = f := by
  rcases p.visits_end plan runner past with
    ⟨-, hgood⟩ | ⟨before, v, f', behind, hvisits, hgood, hv, -⟩
  · rw [failureOf_of_good hgood] at h
    cases h
  · rw [hvisits, failureOf_of_failed hgood hv] at h
    obtain rfl := Option.some.inj h
    obtain ⟨f'', hf'', hmasked⟩ := Visit.failure?_eq_some_iff.mp hv
    exact ⟨v, f'', by rw [hvisits, List.getLast?_concat], hf'', hmasked⟩

/-- The statuses of a report, by the two ways in which a run ends. -/
theorem statuses_run :
    ((p.visits plan runner past).map Visit.stage = plan.stages ∧
      (p.recordsOf runner plan.stages (p.visits plan runner past)).map StageRecord.status =
        List.replicate plan.stages.length .succeeded) ∨
    ∃ before stage behind, plan.stages = before ++ stage :: behind ∧
      (p.visits plan runner past).map Visit.stage = before ++ [stage] ∧
      (p.recordsOf runner plan.stages (p.visits plan runner past)).map StageRecord.status =
        List.replicate before.length .succeeded ++
          .failed :: List.replicate behind.length .notRun := by
  rcases p.visits_end plan runner past with
    ⟨hall, hgood⟩ | ⟨before, v, f, behind, hvisits, hgood, hv, hstages⟩
  · refine .inl ⟨hall, ?_⟩
    have hlength : plan.stages.length = (p.visits plan runner past).length := by
      rw [← hall, List.length_map]
    rw [recordsOf, List.drop_eq_nil_of_le (Nat.le_of_eq hlength), List.map_nil, List.append_nil,
      map_status_of_good hgood, hlength]
  · refine .inr ⟨before.map Visit.stage, v.stage, behind, hstages, ?_, ?_⟩
    · rw [hvisits, List.map_append]
      rfl
    · rw [hvisits, hstages, map_status_of_failed hgood hv, List.length_map]

/-- **The report of a run agrees with the run**, whatever the plan, the work of its stages, the
looks at workloads and the answers to commands. -/
theorem report_of_run (command : String) (began : Timestamp) :
    let run := p.run plan (.begin command began)
    let visits := p.visits plan runner past
    Invokes p plan runner visits (run.events runner past) ∧
      (run.result runner past).1.Tells p runner plan.stages visits (run.result runner past).2 := by
  intro run visits
  refine ⟨invokes_run p plan runner past _, ?_⟩
  have hresult : run.result runner past = _ := result_run p plan (.begin command began) runner past
  rw [hresult]
  have hrecords : ∀ records, ((Report.begin command began).addAll records).stages = records :=
    fun _ => rfl
  refine ⟨?_, ?_, ?_, rfl, ?_, ?_, ?_, fun f hf => ⟨?_, fun record hrecord hfailed => ?_⟩,
    fun f hf => ?_⟩
  · rw [Report.stages_finish, hrecords]
    exact map_stage_recordsOf (p.stage_visits_prefix plan runner past)
  · rw [Report.stages_finish, hrecords]
    exact statuses_run p plan runner past
  · rw [Report.executed, Report.stages_finish, hrecords, filter_recordsOf, List.map_map]
    exact List.map_congr_left fun v _ => Visit.stage_record
  · rw [outcomeOf_eq_ok_iff]
    exact Option.isNone_iff_eq_none
  · rw [outcomeOf_eq_ok_iff]
    exact Option.map_eq_none_iff
  · rw [Report.stages_finish, hrecords, outcomeOf_eq_ok_iff]
    exact forall_ne_failed_iff p plan runner past
  · refine ⟨_, congrArg (Option.map _) (outcomeOf_eq_error_iff.mp hf), ?_⟩
    exact ⟨rfl, rfl, rfl, rfl, rfl⟩
  · rw [Report.stages_finish, hrecords] at hrecord
    obtain ⟨f', hf', herror⟩ := error_of_failed p plan runner past hrecord hfailed
    rw [outcomeOf_eq_error_iff.mp hf] at hf'
    rw [herror, Option.some.inj hf']
  · exact masked_of_failureOf p plan runner past (outcomeOf_eq_error_iff.mp hf)

end Agreement

end Rollout
