import Rollout.Proofs.Gating
import Rollout.Proofs.Repertoire

/-!
# The warnings of a run

A warning is shown to the operator and kept for the report. It is kept in the outcome of its stage,
and an outcome is what a stage comes to that does not fail: the warnings of a stage that fails are
shown, and then lost. This file proves both, `Rollout.warned_run`, for every run of every plan, and
shows a run that loses a warning, `Rollout.lost_warning`.

An attempt that goes on from an outcome *reports* what it shows if it adds the warnings that it shows
to those of the outcome, in order (`Rollout.Attempt.Reports`). Reports compose, one behind the other
and behind attempts that show no warnings (`Rollout.Attempt.Quiet`), and every stage is put together
from these. Nothing is said of an attempt that fails, for there is no outcome then.
-/

namespace Rollout

/-- The messages of the warnings that were shown, oldest first. -/
def warningsOf (events : List Event) : List String := messagesOf .warn (linesOf events)

@[simp] theorem warningsOf_nil : warningsOf [] = [] := rfl

@[simp] theorem warningsOf_append (before after : List Event) :
    warningsOf (before ++ after) = warningsOf before ++ warningsOf after := by
  simp [warningsOf, messagesOf_append]

/-! ### What an attempt shows by way of warnings -/

namespace Attempt

variable {ε ε' α β : Type}

/-- An attempt that shows no warnings, however it ends. -/
def Quiet (a : Attempt ε α) : Prop := ∀ runner past, warningsOf (a.events runner past) = []

/-- **An attempt that goes on from an outcome and reports what it shows**: if it succeeds, its
warnings stand behind those of the outcome. -/
def Reports (o : Outcome) (a : Attempt ε Outcome) : Prop :=
  ∀ runner past o', a.result runner past = .ok o' →
    o'.warnings = o.warnings ++ warningsOf (a.events runner past)

theorem Quiet.bind {a : Attempt ε α} {f : α → Attempt ε β} (ha : a.Quiet) (hf : ∀ x, (f x).Quiet) :
    (a >>= f).Quiet := by
  intro runner past
  cases hr : a.result runner past with
  | error e => rw [events_bind_of_error hr, ha]
  | ok x => rw [events_bind_of_ok hr, warningsOf_append, ha, hf, List.append_nil]

theorem Quiet.mapFailure {a : Attempt ε α} (ha : a.Quiet) (word : ε → ε') :
    (Attempt.mapFailure word a).Quiet := by
  intro runner past
  rw [events_mapFailure]
  exact ha runner past

/-- A report behind an attempt that shows no warnings. -/
theorem Quiet.reports {a : Attempt ε α} {f : α → Attempt ε Outcome} {o : Outcome} (ha : a.Quiet)
    (hf : ∀ x, (f x).Reports o) : (a >>= f).Reports o := by
  intro runner past o' ho'
  cases hr : a.result runner past with
  | error e =>
    rw [result_bind_of_error hr] at ho'
    cases ho'
  | ok x =>
    rw [result_bind_of_ok hr] at ho'
    rw [events_bind_of_ok hr, warningsOf_append, ha, List.nil_append]
    exact hf x runner _ o' ho'

/-- **Two reports, one behind the other, are one report.** -/
theorem Reports.bind {o : Outcome} {a : Attempt ε Outcome} {f : Outcome → Attempt ε Outcome}
    (ha : a.Reports o) (hf : ∀ o', (f o').Reports o') : (a >>= f).Reports o := by
  intro runner past o' ho'
  cases hr : a.result runner past with
  | error e =>
    rw [result_bind_of_error hr] at ho'
    cases ho'
  | ok o₁ =>
    rw [result_bind_of_ok hr] at ho'
    have hfirst := ha runner past o₁ hr
    have hsecond := hf o₁ runner _ o' ho'
    rw [events_bind_of_ok hr, warningsOf_append, hsecond, hfirst, List.append_assoc]

theorem quiet_ofExcept (r : Except ε α) : (ofExcept r).Quiet := fun _ _ => rfl

theorem quiet_pure (x : α) : (pure x : Attempt ε α).Quiet := fun _ _ => rfl

theorem quiet_run (c : Command) : (run c).Quiet := fun _ _ => rfl

/-- A command that has to succeed, with whatever is read from its output and however its failure is
worded. -/
theorem quiet_read (c : Command) (word : ProcessError → ε) (read : Output → α) :
    (mapFailure word do return read (← runChecked c)).Quiet :=
  (((quiet_run c).bind fun _ => quiet_ofExcept _).bind fun _ => quiet_pure _).mapFailure word

theorem quiet_info (text : String) : (display (.info text) : Attempt ε Unit).Quiet :=
  fun _ _ => rfl

theorem quiet_success (text : String) : (display (.success text) : Attempt ε Unit).Quiet :=
  fun _ _ => rfl

theorem reports_fail (o : Outcome) (e : ε) : (fail e : Attempt ε Outcome).Reports o := nofun

/-- An outcome with the same warnings. -/
theorem reports_pure {o o' : Outcome} (h : o'.warnings = o.warnings) :
    (pure o' : Attempt ε Outcome).Reports o := by
  intro runner past o₁ ho₁
  obtain rfl := Except.ok.inj ho₁
  exact h.trans (List.append_nil _).symm

/-- A warning is shown and kept. -/
theorem reports_warn (o : Outcome) (text : String) : (o.warn text : Attempt ε Outcome).Reports o := by
  intro runner past o' ho'
  obtain rfl := Except.ok.inj ho'
  rfl

end Attempt

open Tools Stages Attempt

/-! ### The work of the stages -/

theorem quiet_created (policy : Policy) (label : String) (c : Command) :
    (Provisioning.created policy label (Attempt.run c)).Quiet :=
  (quiet_run c).bind fun _ => quiet_ofExcept _

/-- To find what was to be created is a warning; that it was created is none. -/
theorem reports_creation {ε : Type} {a : Attempt ε Creation} (ha : a.Quiet) (word : ε → Failure)
    {f : Creation → Attempt Failure Outcome} {l : Line} {o : Outcome} {text : String}
    (hl : (display l : Attempt Failure Unit).Quiet)
    (hcreated : f .created = do Attempt.display l; return o)
    (hexisted : f .alreadyExisted = o.warn text) : (mapFailure word a >>= f).Reports o := by
  refine (ha.mapFailure word).reports fun creation => ?_
  cases creation with
  | created =>
    rw [hcreated]
    exact hl.reports fun _ => reports_pure rfl
  | alreadyExisted =>
    rw [hexisted]
    exact reports_warn o text

theorem quiet_which (tool : String) : (which tool).Quiet := by
  rw [which_eq]
  refine Quiet.bind (fun _ _ => rfl) fun answer => ?_
  split
  · exact quiet_ofExcept _
  · refine Quiet.bind (fun _ _ => rfl) fun answer => ?_
    split <;> exact quiet_ofExcept _
  · exact quiet_ofExcept _

theorem quiet_findTools (tools : List String) : (Prerequisites.findTools tools).Quiet := by
  induction tools with
  | nil => exact quiet_pure ()
  | cons tool rest ih =>
    refine Quiet.bind ?_ fun _ => ih
    refine ((quiet_which tool).mapFailure _).bind fun found => ?_
    split
    · exact quiet_pure ()
    · exact quiet_ofExcept _

theorem reports_prerequisites (tools : List String) :
    (Prerequisites.check tools).Reports .silent := by
  refine (quiet_findTools tools).reports fun _ => (quiet_info _).reports fun _ => ?_
  refine (quiet_read Gcloud.authListCommand _ _).reports fun account => ?_
  cases account with
  | some account => exact (quiet_success _).reports fun _ => reports_pure rfl
  | none => exact reports_fail _ _

theorem reports_project (c : Configuration) (apis : List String) (policy : Policy) :
    (Provisioning.project c apis policy).Reports .silent := by
  have hselect : (Provisioning.selectProject c.projectId).Quiet :=
    (quiet_info _).bind fun _ => quiet_read _ _ _
  have henable : (Provisioning.enableServices c.projectId apis).Quiet := by
    unfold Provisioning.enableServices
    split
    · exact quiet_pure ()
    · exact (quiet_info _).bind fun _ => quiet_read _ _ _
  have hcreate : (Provisioning.createRepository c policy .silent).Reports .silent :=
    (quiet_info _).reports fun _ =>
      reports_creation (quiet_created _ _ _) _ (quiet_success _) rfl rfl
  exact hselect.reports fun _ => henable.reports fun _ => hcreate.bind fun _ => reports_pure rfl

theorem quiet_clusterStatus (name : Gcloud.ClusterName) : (Gcloud.clusterStatus name).Quiet := by
  refine (quiet_run _).bind fun o => ?_
  split
  · exact quiet_pure _
  · split
    · exact quiet_pure _
    · exact (quiet_ofExcept _).bind fun _ => quiet_pure _

theorem reports_cluster (c : Configuration) (s : ClusterSettings) (policy : Policy) :
    (Provisioning.cluster c s policy).Reports .silent := by
  have hensure : (Provisioning.ensureCluster c s policy).Reports .silent := by
    refine ((quiet_clusterStatus _).mapFailure _).reports fun status => ?_
    cases status with
    | some status =>
      dsimp only
      split
      · exact (quiet_info _).reports fun _ => reports_pure rfl
      · exact reports_fail _ _
    | none =>
      exact (quiet_info _).reports fun _ =>
        reports_creation (quiet_created _ _ _) _ (quiet_success _) rfl rfl
  exact hensure.bind fun _ => (quiet_read _ _ _).reports fun _ =>
    (quiet_success _).reports fun _ => reports_pure rfl

theorem reports_publishAll (c : Configuration) (s : ImageSettings) (total number : Nat)
    (images : List ImageSpec) (o : Outcome) :
    (Images.publishAll c s total number images o).Reports o := by
  induction images generalizing number o with
  | nil => exact reports_pure rfl
  | cons image rest ih =>
    refine Reports.bind ?_ fun o' => ih (number + 1) o'
    refine (quiet_info _).reports fun _ => (quiet_read _ _ _).reports fun _ => ?_
    refine (quiet_info _).reports fun _ => (quiet_read _ _ _).reports fun _ => ?_
    exact (quiet_success _).reports fun _ => reports_pure rfl

theorem reports_buildAndPush (c : Configuration) (s : ImageSettings) :
    (Images.buildAndPush c s).Reports .silent :=
  (quiet_info _).reports fun _ => (quiet_read _ _ _).reports fun _ =>
    reports_publishAll c s _ _ _ _

theorem quiet_applyAll (files : Files) (paths : List String) :
    (Manifests.applyAll files paths).Quiet := by
  induction paths with
  | nil => exact quiet_pure ()
  | cons path rest ih =>
    refine Quiet.bind ?_ fun _ => ih
    unfold Manifests.applyPath
    split
    · exact (quiet_info _).bind fun _ => (quiet_read _ _ _).bind fun _ => quiet_pure ()
    · exact quiet_ofExcept _

theorem reports_deployBase (files : Files) (s : BaseAppSettings) :
    (Manifests.deployBase files s).Reports .silent :=
  (quiet_applyAll files _).reports fun _ => (quiet_success _).reports fun _ => reports_pure rfl

theorem reports_deployAgents (files : Files) (c : Configuration) (s : AgentSettings)
    (policy : Policy) : (Manifests.deployAgents files c s policy).Reports .silent := by
  have hensure : (Manifests.ensureNamespace s.space policy .silent).Reports .silent :=
    reports_creation (quiet_created _ _ _) _ (quiet_info _) rfl rfl
  refine (quiet_ofExcept _).reports fun rendered => hensure.bind fun o => ?_
  exact (quiet_info _).reports fun _ => (quiet_read _ _ _).reports fun _ =>
    (quiet_success _).reports fun _ => reports_pure rfl

/-- **The work of a stage keeps what it warns of** in its outcome. -/
theorem warnings_of_actions {files : Files} {settings : Settings} {env : Environment}
    {stage : Stage} {ctx : Context} {runner : Runner} {past : List Event} {o : Outcome}
    (h : ((actions files settings env stage ctx).result runner past).outcome = .ok o) :
    o.warnings = warningsOf ((actions files settings env stage ctx).events runner past) := by
  have hplain {a : Attempt Failure Outcome} (ha : a.Reports .silent)
      (h : ((plain ctx a).result runner past).outcome = .ok o) :
      o.warnings = warningsOf ((plain ctx a).events runner past) := by
    rw [events_plain]
    exact ha runner past o h
  have hconfigured {work : Configuration → Attempt Failure Outcome}
      (hwork : ∀ c, (work c).Reports .silent)
      (h : ((configured ctx work).result runner past).outcome = .ok o) :
      o.warnings = warningsOf ((configured ctx work).events runner past) :=
    hplain ((quiet_ofExcept _).reports hwork) h
  unfold actions at h ⊢
  revert h
  cases stage.id with
  | validate =>
    intro h
    cases hc : Configuration.validate env with
    | error f =>
      simp only [validate, hc] at h
      cases h
    | ok c =>
      simp only [validate, hc] at h ⊢
      cases h
      rfl
  | prerequisites => exact hplain (reports_prerequisites _)
  | baseApp => exact hplain (reports_deployBase files _)
  | project => exact hconfigured fun c => reports_project c _ _
  | cluster => exact hconfigured fun c => reports_cluster c _ _
  | images => exact hconfigured fun c => reports_buildAndPush c _
  | agentSwarm => exact hconfigured fun c => reports_deployAgents files c _ _

/-! ### Waits -/

theorem quiet_ofCluster (limit : Duration) (c : Condition) : (Probe.ofCluster limit c).Quiet :=
  (quiet_read _ _ _).bind fun _ => quiet_ofExcept _

section Waits

variable {w : Waiter} (hprobe : ∀ c, (w.probe c).Quiet)

include hprobe

/-- However long a wait takes, it shows no warnings. -/
theorem quiet_waitFrom (c : Condition) (attempts : Nat) (elapsed : Duration) :
    (w.waitFrom c attempts elapsed).Quiet := by
  fun_induction w.waitFrom c attempts elapsed with
  | case1 attempts elapsed ih =>
    refine Quiet.bind (fun _ _ => rfl) fun _ => (hprobe c).bind fun status => ?_
    split
    · exact quiet_pure _
    · split
      · rename_i h
        exact Quiet.bind (fun _ _ => rfl) fun _ => ih h
      · exact quiet_pure _

theorem reports_await (conditions : List Condition) (o : Outcome) :
    (Pipeline.await w conditions o).Reports o := by
  induction conditions generalizing o with
  | nil => exact reports_pure rfl
  | cons c rest ih =>
    have hrequire : (w.require c).Quiet := by
      refine (quiet_waitFrom hprobe c 0 .zero).bind fun wait => ?_
      cases wait with
      | satisfied _ _ detail => exact quiet_pure _
      | timedOut attempts _ status => exact quiet_ofExcept _
    refine (quiet_info _).reports fun _ => hrequire.reports fun detail => ?_
    refine Reports.bind ?_ fun o' => ih o'
    unfold Pipeline.announce
    split
    · exact (quiet_success _).reports fun _ => reports_pure rfl
    · exact (quiet_success _).reports fun _ => reports_pure rfl

end Waits

/-! ### Stages -/

section Run

open Pipeline

variable {files : Files} {settings : Settings} {env : Environment} {runner : Runner} {v : Visit}

/-- **A stage that does not fail is recorded with all the warnings shown for it**: first those of its
work, then those of its waits. -/
theorem warnings_record_of_good
    (h : v.failure? (Stages.pipeline files settings env) runner = none) :
    (v.record (Stages.pipeline files settings env) runner).warnings =
      warningsOf (v.events (Stages.pipeline files settings env) runner) := by
  obtain ⟨hinvoked, ⟨o, ho⟩, -⟩ := Visit.completed_of_good h
  obtain ⟨o', ho'⟩ := Visit.failure?_eq_none_iff.mp h
  have hwork : o.warnings = warningsOf (v.deeds (Stages.pipeline files settings env) runner) :=
    warnings_of_actions ho
  have hwaits : o'.warnings =
      o.warnings ++ warningsOf (v.waits (Stages.pipeline files settings env) runner) := by
    rw [Visit.outcome_of_invoked hinvoked, ho] at ho'
    rw [Visit.waits_of_outcome ho]
    exact reports_await (quiet_ofCluster _) v.stage.readiness o runner _ o' ho'
  have hrecord : (v.record (Stages.pipeline files settings env) runner).warnings = o'.warnings := by
    simp only [Visit.record, ho']
    rfl
  rw [hrecord, hwaits, hwork, Visit.events_of_invoked hinvoked, ← List.singleton_append,
    warningsOf_append, warningsOf_append]
  rfl

/-- A stage that fails is recorded without warnings, whatever was shown for it. -/
theorem warnings_record_of_failed {p : Pipeline} {f : Failure} (h : v.failure? p runner = some f) :
    (v.record p runner).warnings = [] := by
  rw [Visit.record_of_eq_some h]
  rfl

end Run

/-! ### Runs -/

/-- **What a report has of the warnings of a run**, given the visits of the run, what happens in it,
the records of its report and how it ended. -/
structure Warned (p : Pipeline) (runner : Runner) (visits : List Visit) (events : List Event)
    (records : List StageRecord) (result : Except Failure Unit) : Prop where
  /-- The record of a stage has the warnings shown for it, in order, if the stage succeeded; it has
  none if the stage failed. -/
  recorded : ∀ (i : Nat) (v : Visit) (record : StageRecord), visits[i]? = some v →
    records[i]? = some record →
    record.status = .succeeded ∧ record.warnings = warningsOf (v.events p runner) ∨
      record.status = .failed ∧ record.warnings = []
  /-- So a stage is recorded with what was shown for it unless it failed behind a warning. -/
  agrees_iff : ∀ (i : Nat) (v : Visit) (record : StageRecord), visits[i]? = some v →
    records[i]? = some record →
    (record.warnings = warningsOf (v.events p runner) ↔
      (record.status = .failed → warningsOf (v.events p runner) = []))
  /-- Nothing is warned of but for a stage. -/
  shown : warningsOf events = visits.flatMap fun v => warningsOf (v.events p runner)
  /-- A run that does not fail loses no warning. -/
  whole : result = .ok () → warningsOf events = records.flatMap StageRecord.warnings

section Runs

open Pipeline

/-- The executor warns of nothing itself. -/
theorem warningsOf_historyOf (p : Pipeline) (runner : Runner) (total : Nat) (visits : List Visit) :
    warningsOf (p.historyOf runner total visits) =
      visits.flatMap fun v => warningsOf (v.events p runner) := by
  induction visits with
  | nil => rfl
  | cons v rest ih =>
    have hannounced : warningsOf (v.history p runner total) = warningsOf (v.events p runner) := rfl
    rw [historyOf, List.flatMap_cons, warningsOf_append, hannounced, List.flatMap_cons]
    exact congrArg _ ih

/-- The records of a run in which no stage failed have all that was warned of. -/
theorem flatMap_warnings_recordsOf {files : Files} {settings : Settings} {env : Environment}
    {plan : Plan} {runner : Runner} {past : List Event}
    (h : (Stages.pipeline files settings env).failureOf runner
      ((Stages.pipeline files settings env).visits plan runner past) = none) :
    let p := Stages.pipeline files settings env
    (p.recordsOf runner plan.stages (p.visits plan runner past)).flatMap StageRecord.warnings =
      (p.visits plan runner past).flatMap fun v => warningsOf (v.events p runner) := by
  intro p
  have hgood : ∀ v ∈ p.visits plan runner past, v.failure? p runner = none :=
    List.findSome?_eq_none_iff.mp h
  have hall : (p.visits plan runner past).map Visit.stage = plan.stages := by
    rcases p.visits_end plan runner past with
      ⟨hall, -⟩ | ⟨before, v, f, behind, hvisits, hbefore, hv, -⟩
    · exact hall
    · rw [hvisits, failureOf_of_failed hbefore hv] at h
      cases h
  have heach : ∀ v ∈ p.visits plan runner past,
      (v.record p runner).warnings = warningsOf (v.events p runner) :=
    fun v hv => warnings_record_of_good (hgood v hv)
  rw [← hall, ← List.append_nil (List.map Visit.stage _), recordsOf_append, List.map_nil,
    List.append_nil, List.flatMap_map, List.flatMap_def, List.flatMap_def, List.map_congr_left heach]

/-- The record of a visit has all that was warned of, or is that of a failure and has nothing. -/
theorem warnings_of_recorded {files : Files} {settings : Settings} {env : Environment} {plan : Plan}
    {runner : Runner} {past : List Event} {i : Nat} {v : Visit} {record : StageRecord}
    (hv : ((Stages.pipeline files settings env).visits plan runner past)[i]? = some v)
    (hrecord : ((Stages.pipeline files settings env).recordsOf runner plan.stages
      ((Stages.pipeline files settings env).visits plan runner past))[i]? = some record) :
    record.status = .succeeded ∧
        record.warnings = warningsOf (v.events (Stages.pipeline files settings env) runner) ∨
      record.status = .failed ∧ record.warnings = [] := by
  rcases getElem?_recordsOf hrecord with ⟨w, hw, rfl⟩ | ⟨hnone, -⟩
  · obtain rfl := Option.some.inj (hv.symm.trans hw)
    cases hf : v.failure? (Stages.pipeline files settings env) runner with
    | none => exact .inl ⟨Visit.status_record_of_eq_none hf, warnings_record_of_good hf⟩
    | some f =>
      refine .inr ⟨?_, warnings_record_of_failed hf⟩
      rw [Visit.record_of_eq_some hf]
      rfl
  · rw [hv] at hnone
    cases hnone

/-- **The warnings of a run reach the report from the stages that succeed, and from no other**,
whatever the settings, the environment and the answers to commands. -/
theorem warned_run (files : Files) (settings : Settings) (env : Environment) (plan : Plan)
    (command : String) (began : Timestamp) (runner : Runner) (past : List Event) :
    let p := Stages.pipeline files settings env
    let run := p.run plan (.begin command began)
    let visits := p.visits plan runner past
    Invokes p plan runner visits (run.events runner past) ∧
      Warned p runner visits (run.events runner past) (run.result runner past).1.stages
        (run.result runner past).2 := by
  intro p run visits
  refine ⟨invokes_run p plan runner past _, ?_⟩
  have hrecords : (run.result runner past).1.stages = _ := records_run p plan runner past ..
  have houtcome : (run.result runner past).2 = _ := outcome_run p plan _ runner past
  have hshown : warningsOf (run.events runner past) =
      visits.flatMap fun v => warningsOf (v.events p runner) := by
    rw [show run.events runner past = _ from events_run p plan _ runner past, warningsOf_append,
      warningsOf_historyOf]
    -- the line that ends a run is no warning
    split <;> exact List.append_nil _
  have hrecorded (i : Nat) (v : Visit) (record : StageRecord) (hv : visits[i]? = some v)
      (hrecord : (run.result runner past).1.stages[i]? = some record) :
      record.status = .succeeded ∧ record.warnings = warningsOf (v.events p runner) ∨
        record.status = .failed ∧ record.warnings = [] := by
    rw [hrecords] at hrecord
    exact warnings_of_recorded hv hrecord
  refine ⟨hrecorded, fun i v record hv hrecord => ?_, hshown, fun hok => ?_⟩
  · rcases hrecorded i v record hv hrecord with ⟨hstatus, hwarnings⟩ | ⟨hstatus, hwarnings⟩
    · rw [hwarnings, hstatus]
      exact ⟨fun _ => nofun, fun _ => rfl⟩
    · rw [hwarnings, hstatus]
      exact ⟨fun h _ => h.symm, fun h => (h rfl).symm⟩
  · rw [hshown, hrecords]
    exact (flatMap_warnings_recordsOf (outcomeOf_eq_ok_iff.mp (houtcome ▸ hok))).symm

end Runs

/-! ### A warning that is lost -/

/-- A host where the cluster is there when it is to be created, but was not when it was asked for,
and where no one is given its credentials. -/
def racedHost : Runner := fun _ c =>
  if c.args.contains "describe" then .ok ⟨.error 1, "", "Not found", .zero⟩
  else if c.args.contains "create-auto" then .ok ⟨.error 1, "", "ALREADY_EXISTS", .zero⟩
  else if c.args.contains "get-credentials" then .ok ⟨.error 1, "", "PERMISSION_DENIED", .zero⟩
  else .ok ⟨.success, "operator", "", .zero⟩

/-- A deployment that says only what has to be said. -/
def plainPipeline : Pipeline :=
  Stages.pipeline .empty .builtIn
    (.ofList [(Configuration.projectIdName, "demo"), (Configuration.apiKeyName, "key")])

/-- The stages that a run for the cluster comes to on that host. -/
def racedVisits : List Visit :=
  plainPipeline.visits (.ofGoal .cluster (catalog .builtIn)) racedHost []

/-- The records of that run. -/
def racedRecords : List StageRecord :=
  ((plainPipeline.run (.ofGoal .cluster (catalog .builtIn))
    (.begin "cluster" (.afterEpoch .zero))).result racedHost []).1.stages

/-- **A warning that never reaches the report.** The stage of the cluster warns that it was created
by another, fails to fetch the credentials, and is recorded without warnings. -/
theorem lost_warning :
    Settings.builtIn.check = .ok .builtIn ∧
      ∃ v record, racedVisits[3]? = some v ∧ racedRecords[3]? = some record ∧
        record.stage = .cluster ∧ record.status = .failed ∧
        warningsOf (v.events plainPipeline racedHost) =
          ["Cluster boa-consent-cluster was created concurrently, reusing it"] ∧
        record.warnings ≠ warningsOf (v.events plainPipeline racedHost) := by
  have hshown : racedVisits[3]?.map (fun v => warningsOf (v.events plainPipeline racedHost)) =
      some ["Cluster boa-consent-cluster was created concurrently, reusing it"] := by
    decide +kernel
  have hrecord : racedRecords[3]?.map (fun r => (r.stage, r.status, r.warnings)) =
      some (.cluster, .failed, []) := by decide +kernel
  obtain ⟨v, hv, hwarned⟩ := Option.map_eq_some_iff.mp hshown
  obtain ⟨record, hr, hkept⟩ := Option.map_eq_some_iff.mp hrecord
  obtain ⟨hstage, hrest⟩ := Prod.mk.inj hkept
  obtain ⟨hstatus, hnone⟩ := Prod.mk.inj hrest
  refine ⟨rfl, v, record, hv, hr, hstage, hstatus, hwarned, ?_⟩
  rw [hnone, hwarned]
  exact nofun

end Rollout
