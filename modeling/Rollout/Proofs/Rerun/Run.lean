import Mathlib.Data.List.Forall2
import Rollout.Proofs.Coupling.Run
import Rollout.Proofs.Rerun
import Rollout.Proofs.Gating
import Rollout.Proofs.Invocations

/-!
# Running a deployment again

The run that finds things there runs the same commands as the run that could create them, ends with
the same result, and has the same report but for times and for one warning in each stage that
succeeded although something it wanted to create was there.

Each of the stages that create something creates one thing, under a policy that absorbs duplicates
and in the middle of steady work. So the outcome of a stage is the same, or it has one warning more,
and then the warning is the one that belongs to what was absorbed (`Rollout.Outcome.Warned`,
`Rollout.Rerun.echoes_actions`). Waits look at workloads only, and keep it so. The two runs are then
taken side by side, visit by visit (`Rollout.Rerun.revisits_visitsFrom`), and the main statement,
`Rollout.Rerun.repeated_of_rerun`, is read off the visits.
-/

namespace Rollout

open Coupling Tools Stages

/-! ### One warning more -/

/-- **What the operator is told** of a creation that was absorbed. -/
inductive Warns : Command → String → Prop
  | repository (project location name : String) :
      Warns (Gcloud.repositoryCreation project location name)
        ("Artifact repository " ++ name ++ " already exists, reusing it")
  | cluster (project location name : String) (privateNodes : Bool) (channel : Option String) :
      Warns (Gcloud.clusterCreation project location name privateNodes channel)
        ("Cluster " ++ name ++ " was created concurrently, reusing it")
  | namespace (space : String) :
      Warns (kubectl ["create", "namespace", space]) ("Namespace " ++ space ++ " already exists")

theorem warns_createRepository (project location name : String) :
    Warns (Gcloud.createRepositoryCommand project location name)
      ("Artifact repository " ++ name ++ " already exists, reusing it") := by
  rw [Gcloud.createRepositoryCommand_eq]
  exact .repository project location name

theorem warns_createCluster (c : Gcloud.ClusterName) (privateNodes : Bool)
    (channel : Option String) : Warns (Gcloud.createClusterCommand c privateNodes channel)
      ("Cluster " ++ c.name ++ " was created concurrently, reusing it") := by
  rw [Gcloud.createClusterCommand_eq]
  exact .cluster c.project c.location c.name privateNodes channel

/-- **The outcome of a stage that is run again**: the same where nothing was absorbed, and with one
warning more where a creation was. -/
inductive Outcome.Warned : List Command → Outcome → Outcome → Prop
  | same (o : Outcome) : Warned [] o o
  | absorbed {c : Command} {text : String} (o : Outcome) (h : Warns c text) :
      Warned [c] o (o.addWarning text)

theorem Outcome.Warned.note {absorbed : List Command} {o o' : Outcome} (h : Warned absorbed o o')
    (text : String) : Warned absorbed (o.note text) (o'.note text) := by
  cases h with
  | same => exact .same _
  | absorbed _ h => exact .absorbed _ h

/-- **The record of a stage that is run again**: the same up to times, with a warning for what was
absorbed if the stage succeeded. -/
structure StageRecord.Repeats (absorbed : List Command) (record record' : StageRecord) : Prop where
  stage : record'.stage = record.stage
  status : record'.status = record.status
  begun : record'.startedAt.isSome = record.startedAt.isSome
  notes : record'.notes = record.notes
  error : record'.error = record.error
  /-- A stage that succeeded has one more warning for the creation that was absorbed, if one was. -/
  succeeded : record.status = .succeeded →
    (absorbed = [] ∧ record'.warnings = record.warnings) ∨
      ∃ c text, absorbed = [c] ∧ Warns c text ∧ record'.warnings = record.warnings ++ [text]
  /-- A stage that did not succeed has no warnings in either run. -/
  failed : record.status ≠ .succeeded → record'.warnings = record.warnings

theorem StageRecord.repeats_failed (absorbed : List Command) (stage : StageId)
    (began began' : Timestamp) (took took' : Duration) (error : String) :
    (StageRecord.failed stage began took error).Repeats absorbed
      (.failed stage began' took' error) :=
  ⟨rfl, rfl, rfl, rfl, rfl, nofun, fun _ => rfl⟩

theorem StageRecord.repeats_succeeded {absorbed : List Command} {o o' : Outcome}
    (h : Outcome.Warned absorbed o o') (stage : StageId) (began began' : Timestamp)
    (took took' : Duration) :
    (StageRecord.succeeded stage began took o.warnings o.notes).Repeats absorbed
      (.succeeded stage began' took' o'.warnings o'.notes) := by
  cases h with
  | same => exact ⟨rfl, rfl, rfl, rfl, rfl, fun _ => .inl ⟨rfl, rfl⟩, fun hs => absurd rfl hs⟩
  | @absorbed c text _ hwarns =>
    exact ⟨rfl, rfl, rfl, rfl, rfl, fun _ => .inr ⟨c, text, rfl, hwarns, rfl⟩,
      fun hs => absurd rfl hs⟩

theorem StageRecord.repeats_notRun (stage : StageId) :
    (StageRecord.notRun stage).Repeats [] (.notRun stage) :=
  ⟨rfl, rfl, rfl, rfl, rfl, nofun, fun _ => rfl⟩

namespace Rerun

variable {k : Rerun}

/-! ### The stages that create something -/

/-- A command of no creation, with whatever is read from its output. -/
theorem steady_read {α : Type} {c : Command} (hc : Harmless c)
    (word : ProcessError → Failure) (read : Output → α) :
    k.Steady (Attempt.mapFailure word do return read (← Attempt.runChecked c)) :=
  steady_of_asks (((made_runChecked hc).bind fun _ => .pure _).mapFailure word)

/-- **A creation, with what the operator is told of it**, leads to one warning more where it was
absorbed. -/
theorem returns_creation {c : Command} {text : String} (hwarns : Warns c text) (label : String)
    (word : ProcessError → Failure) {f : Creation → Attempt Failure Outcome} {l : Line}
    {o : Outcome}
    (hcreated : f .created = do Attempt.display l; return o)
    (hexisted : f .alreadyExisted = o.warn text) :
    k.Returns Outcome.Warned
      (Attempt.mapFailure word
        (Provisioning.created .treatDuplicateAsSuccess label (Attempt.run c)) >>= f)
      (Attempt.mapFailure word
        (Provisioning.created .treatDuplicateAsSuccess label (Attempt.run c)) >>= f) := by
  refine ((returns_created c label).mapFailure word).steady fun absorbed x y h => ?_
  cases h with
  | absorbed =>
    rw [hcreated, hexisted]
    exact .after_display (.pure ⟨rfl, .absorbed o hwarns⟩)
  | same =>
    -- the second run may warn here as well, but then the first has warned alike
    cases x with
    | created =>
      rw [hcreated]
      exact .after_display (.pure ⟨rfl, .same o⟩)
    | alreadyExisted =>
      rw [hexisted]
      exact .after_display (.pure ⟨rfl, .same _⟩)

theorem returns_project (c : Configuration) (apis : List String) :
    k.Returns Outcome.Warned (Provisioning.project c apis .treatDuplicateAsSuccess)
      (Provisioning.project c apis .treatDuplicateAsSuccess) := by
  have hselect : k.Steady (Provisioning.selectProject c.projectId) :=
    .after_display (steady_read rfl _ _)
  have henable : k.Steady (Provisioning.enableServices c.projectId apis) := by
    unfold Provisioning.enableServices
    split
    · exact steady_ofExcept _
    · exact .after_display (steady_read rfl _ _)
  have hcreate : k.Returns Outcome.Warned
      (Provisioning.createRepository c .treatDuplicateAsSuccess .silent)
      (Provisioning.createRepository c .treatDuplicateAsSuccess .silent) :=
    .after_display (returns_creation (warns_createRepository ..) _ _ rfl rfl)
  refine hselect.returns fun _ => henable.returns fun _ => ?_
  exact hcreate.steady fun absorbed o o' h => .pure ⟨rfl, h.note _⟩

theorem returns_cluster (c : Configuration) (s : ClusterSettings) :
    k.Returns Outcome.Warned (Provisioning.cluster c s .treatDuplicateAsSuccess)
      (Provisioning.cluster c s .treatDuplicateAsSuccess) := by
  have hensure : k.Returns Outcome.Warned
      (Provisioning.ensureCluster c s .treatDuplicateAsSuccess)
      (Provisioning.ensureCluster c s .treatDuplicateAsSuccess) := by
    refine Steady.returns ((steady_of_asks (made_clusterStatus rfl)).mapFailure _) fun status => ?_
    cases status with
    | none => exact .after_display (returns_creation (warns_createCluster ..) _ _ rfl rfl)
    | some status =>
      dsimp only
      split
      · exact .after_display (.pure (.same _))
      · exact Echoes.pure (.error rfl)
  refine hensure.steady fun absorbed o o' h => ?_
  refine Steady.returns (steady_read rfl _ _) fun _ => .after_display ?_
  exact .pure ⟨rfl, h.note _⟩

theorem returns_deployAgents (files : Files) (c : Configuration) (s : AgentSettings) :
    k.Returns Outcome.Warned (Manifests.deployAgents files c s .treatDuplicateAsSuccess)
      (Manifests.deployAgents files c s .treatDuplicateAsSuccess) := by
  refine (steady_ofExcept _).returns fun rendered => ?_
  have hnamespace : k.Returns Outcome.Warned
      (Manifests.ensureNamespace s.space .treatDuplicateAsSuccess .silent)
      (Manifests.ensureNamespace s.space .treatDuplicateAsSuccess .silent) :=
    returns_creation (.namespace _) _ _ rfl rfl
  refine hnamespace.steady fun absorbed o o' h => .after_display ?_
  exact Steady.returns (steady_read rfl _ _) fun _ => .after_display (.pure ⟨rfl, h⟩)

/-! ### The work of the stages -/

/-- What came of the work of a stage in both runs. -/
abbrev WorksEcho (absorbed : List Command) : Work → Work → Prop :=
  Coupling.WorksAgree Eq Eq (Outcome.Warned absorbed)

theorem echoes_plain (ctx : Context) {a b : Attempt Failure Outcome}
    (h : k.Returns Outcome.Warned a b) : k.Echoes WorksEcho (plain ctx a) (plain ctx b) := by
  refine Echoes.bind h fun absorbed x y hxy => .pure ?_
  rw [List.append_nil]
  exact ⟨contextsAgree_eq_iff.mpr rfl, hxy⟩

/-- What is steady, and so absorbs nothing. -/
theorem Steady.warned {a : Attempt Failure Outcome} (h : k.Steady a) :
    k.Returns Outcome.Warned a a := by
  refine h.mono fun absorbed x y hxy => ?_
  cases hxy with
  | ok h =>
    obtain ⟨rfl, rfl⟩ := h
    exact .ok (.same _)
  | error h => exact .error h

theorem echoes_configured {ctx : Context} {f : Configuration → Attempt Failure Outcome}
    (h : ∀ c, k.Returns Outcome.Warned (f c) (f c)) :
    k.Echoes WorksEcho (configured ctx f) (configured ctx f) :=
  echoes_plain ctx ((steady_ofExcept _).returns h)

theorem echoes_validate (env : Environment) (ctx : Context) :
    k.Echoes WorksEcho (validate env ctx) (validate env ctx) := by
  unfold validate
  cases Configuration.validate env with
  | error f => exact .pure ⟨contextsAgree_eq_iff.mpr rfl, .error rfl⟩
  | ok c =>
    exact .of_silent (fun _ => rfl) (fun _ => rfl) fun _ _ =>
      ⟨contextsAgree_eq_iff.mpr rfl, .ok (.same _)⟩

/-- **The work of every stage of the catalog** comes to the same, or to one warning more. It is here
that the policies of the catalog count: the stages that create something absorb duplicates. -/
theorem echoes_actions {files : Files} {settings : Settings} {env : Environment} {stage : Stage}
    (hstage : stage ∈ catalog settings) (ctx : Context) :
    k.Echoes WorksEcho (actions files settings env stage ctx)
      (actions files settings env stage ctx) := by
  have hsteady {id : StageId} {a : Attempt Failure Outcome} (h : a.Made (Step id))
      (hid : id = .prerequisites ∨ id = .images ∨ id = .baseApp) :
      k.Returns Outcome.Warned a a :=
    Steady.warned (steady_of_made (fun hstep => steady_of_step hstep hid) h)
  simp only [catalog, List.mem_cons, List.not_mem_nil, or_false] at hstage
  rcases hstage with rfl | rfl | rfl | rfl | rfl | rfl | rfl
  · exact echoes_validate env ctx
  · exact echoes_plain ctx (hsteady (made_prerequisites _) (.inl rfl))
  · exact echoes_configured fun c => returns_project c _
  · exact echoes_configured fun c => returns_cluster c _
  · exact echoes_configured fun c => hsteady (made_buildAndPush c _) (.inr (.inl rfl))
  · exact echoes_plain ctx (hsteady (made_deployBase files _) (.inr (.inr rfl)))
  · exact echoes_configured fun c => returns_deployAgents files c _

/-! ### Waits -/

section Waits

variable {w : Waiter} (hprobe : ∀ c, Attempt.Made Look (w.probe c))

include hprobe

/-- **Waits are steady**, and leave a warning where it is. -/
theorem returns_await (conditions : List Condition) {absorbed : List Command} {o o' : Outcome}
    (h : Outcome.Warned absorbed o o') :
    k.Returns (fun later x y => later = [] ∧ Outcome.Warned absorbed x y)
      (Pipeline.await w conditions o) (Pipeline.await w conditions o') := by
  induction conditions generalizing o o' with
  | nil => exact .pure ⟨rfl, h⟩
  | cons c rest ih =>
    have hrequire : k.Steady (w.require c) := steady_of_made steady_of_look (made_require hprobe c)
    refine .after_display (hrequire.returns fun detail => ?_)
    have hannounce : k.Returns (fun later x y => later = [] ∧ Outcome.Warned absorbed x y)
        (Pipeline.announce c detail o) (Pipeline.announce c detail o') := by
      unfold Pipeline.announce
      split
      · exact .after_display (.pure ⟨rfl, h.note _⟩)
      · exact .after_display (.pure ⟨rfl, h⟩)
    refine Returns.bind hannounce fun later x y hxy => ?_
    obtain ⟨rfl, hxy⟩ := hxy
    exact ih hxy

end Waits

/-! ### Visits -/

section Visits

variable {files : Files} {settings : Settings} {env : Environment}

/-- **A stage of the catalog, with its waits.** -/
theorem echoes_runStage {stage : Stage} (hstage : stage ∈ catalog settings) (ctx : Context) :
    k.Echoes WorksEcho ((pipeline files settings env).runStage stage ctx)
      ((pipeline files settings env).runStage stage ctx) := by
  unfold Pipeline.runStage
  split
  · have hbegin : k.Echoes (fun absorbed _ _ => absorbed = []) (Session.begin stage.id)
        (Session.begin stage.id) :=
      .of_silent (fun _ => rfl) (fun _ => rfl) fun _ _ => rfl
    refine Echoes.bind hbegin fun absorbed _ _ h => ?_
    subst h
    refine Echoes.bind (echoes_actions hstage ctx) fun absorbed work work' hwork => ?_
    obtain ⟨shared, outcome⟩ := work
    obtain ⟨shared', outcome'⟩ := work'
    obtain ⟨hshared, houtcome⟩ := hwork
    cases houtcome with
    | error h => exact .pure ⟨hshared, .error h⟩
    | ok h =>
      refine Echoes.bind (returns_await (fun c => made_ofCluster _ c) stage.readiness h)
        fun later x y hxy => .pure ?_
      cases hxy with
      | error h => exact ⟨hshared, .error h⟩
      | ok h =>
        obtain ⟨rfl, h⟩ := h
        exact ⟨hshared, .ok (by simpa using h)⟩
  · exact .pure ⟨contextsAgree_eq_iff.mpr rfl, .error rfl⟩

/-- **The two runs come to the same stage**, with the same commands behind them; what the first does
there is echoed by the second. -/
structure Revisits (k : Rerun) (p : Pipeline) (v v' : Visit) : Prop where
  stage : v'.stage = v.stage
  ctx : v'.ctx = v.ctx
  past : commandsOf v'.past = commandsOf v.past
  echo : ∃ absorbed, Replays absorbed (callsOf (v.events p k.first))
      (callsOf (v'.events p k.second)) ∧
    WorksEcho absorbed (v.work p k.first) (v'.work p k.second)

namespace Revisits

variable {p : Pipeline} {v v' : Visit} (h : k.Revisits p v v')

include h

theorem ctx_work_eq : (v'.work p k.second).ctx = (v.work p k.first).ctx := by
  obtain ⟨absorbed, -, hwork⟩ := h.echo
  exact (contextsAgree_eq_iff.mp hwork.ctx).symm

theorem configuration_eq : v'.configuration p k.second = v.configuration p k.first := by
  rw [Visit.configuration, Visit.configuration, h.ctx_work_eq]

theorem failure?_eq : v'.failure? p k.second = v.failure? p k.first := by
  obtain ⟨absorbed, -, hwork⟩ := h.echo
  have houtcome := hwork.outcome
  unfold Visit.failure?
  rw [h.configuration_eq]
  generalize (v.work p k.first).outcome = outcome at houtcome ⊢
  generalize (v'.work p k.second).outcome = outcome' at houtcome ⊢
  cases houtcome with
  | ok _ => rfl
  | error h => rw [h]

theorem leaves_eq : v'.leaves p k.second = v.leaves p k.first := by
  rw [Visit.leaves, Visit.leaves, h.ctx_work_eq, h.stage]

theorem commandsOf_events :
    commandsOf (v'.events p k.second) = commandsOf (v.events p k.first) := by
  obtain ⟨absorbed, hcalls, -⟩ := h.echo
  exact hcalls.commandsOf_eq

theorem commandsOf_after : commandsOf (v'.after p k.second) = commandsOf (v.after p k.first) := by
  rw [Visit.after, Visit.after, commandsOf_append, commandsOf_append, h.past, h.commandsOf_events]

end Revisits

/-- **The visits of the two runs**, one beside the other. The induction is that of the loop. -/
theorem revisits_visitsFrom {stages : List Stage}
    (hstages : ∀ stage ∈ stages, stage ∈ catalog settings) (total number : Nat) (ctx : Context)
    {past past' : List Event}
    (hpast : commandsOf past' = commandsOf past) :
    List.Forall₂ (k.Revisits (pipeline files settings env))
      ((pipeline files settings env).visitsFrom k.first total number stages ctx past)
      ((pipeline files settings env).visitsFrom k.second total number stages ctx past') := by
  induction stages generalizing number ctx past past' with
  | nil => exact .nil
  | cons stage rest ih =>
    let v := Visit.come total number stage ctx past
    let v' := Visit.come total number stage ctx past'
    have hcome : commandsOf v'.past = commandsOf v.past := by
      rw [Visit.past_come, Visit.past_come, commandsOf_append, commandsOf_append, hpast]
    have hv : k.Revisits (pipeline files settings env) v v' :=
      ⟨rfl, rfl, hcome, echoes_runStage (hstages _ List.mem_cons_self) ctx _ _ hcome⟩
    have hrest : ∀ stage ∈ rest, stage ∈ catalog settings :=
      fun _ h => hstages _ (List.mem_cons_of_mem _ h)
    cases hf : v.failure? (pipeline files settings env) k.first with
    | none =>
      rw [Pipeline.visitsFrom_cons_of_none rfl hf,
        Pipeline.visitsFrom_cons_of_none rfl (hv.failure?_eq.trans hf)]
      refine .cons hv ?_
      rw [hv.leaves_eq]
      exact ih hrest _ _ hv.commandsOf_after
    | some f =>
      rw [Pipeline.visitsFrom_cons_of_some rfl hf,
        Pipeline.visitsFrom_cons_of_some rfl (hv.failure?_eq.trans hf)]
      exact .cons hv .nil

end Visits

/-! ### Records -/

theorem Revisits.record {p : Pipeline} {v v' : Visit} (h : k.Revisits p v v') :
    ∃ absorbed, Replays absorbed (callsOf (v.events p k.first)) (callsOf (v'.events p k.second)) ∧
      (v.record p k.first).Repeats absorbed (v'.record p k.second) := by
  obtain ⟨absorbed, hcalls, hwork⟩ := h.echo
  have houtcome := hwork.outcome
  refine ⟨absorbed, hcalls, ?_⟩
  unfold Visit.record
  rw [h.configuration_eq, h.stage]
  generalize (v.work p k.first).outcome = outcome at houtcome ⊢
  generalize (v'.work p k.second).outcome = outcome' at houtcome ⊢
  cases houtcome with
  | ok h => exact StageRecord.repeats_succeeded h ..
  | error h =>
    subst h
    exact StageRecord.repeats_failed ..

/-! ### Runs -/

section Run

open Pipeline

variable {p : Pipeline} {visits visits' : List Visit}

theorem failureOf_eq (h : List.Forall₂ (k.Revisits p) visits visits') :
    p.failureOf k.second visits' = p.failureOf k.first visits := by
  induction h with
  | nil => rfl
  | cons hv _ ih =>
    rw [failureOf, failureOf, List.findSome?_cons, List.findSome?_cons, hv.failure?_eq]
    split
    · rfl
    · exact ih

theorem commandsOf_historyOf (total : Nat) (h : List.Forall₂ (k.Revisits p) visits visits') :
    commandsOf (p.historyOf k.second total visits') =
      commandsOf (p.historyOf k.first total visits) := by
  induction h with
  | nil => rfl
  | @cons v v' _ _ hv _ ih =>
    have hhistory : commandsOf (v'.history p k.second total) =
        commandsOf (v.history p k.first total) := hv.commandsOf_events
    rw [historyOf, historyOf, List.flatMap_cons, List.flatMap_cons, commandsOf_append,
      commandsOf_append, hhistory]
    exact congrArg (_ ++ ·) ih

/-- The calls of a run for the stage at a place of the plan; none, if the run did not come to it. -/
def callsAt (p : Pipeline) (runner : Runner) (visits : List Visit) (i : Nat) : List Call :=
  (visits[i]?.map fun v => callsOf (v.events p runner)).getD []

/-- **A plan that is run again**, from a past and with the report that begins. -/
structure Repeated (k : Rerun) (p : Pipeline) (plan : Plan) (r : Report) (past : List Event) :
    Prop where
  /-- The visits of the runs make up their histories. -/
  invokes : Invokes p plan k.first (p.visits plan k.first past)
    ((p.run plan r).events k.first past)
  invokes' : Invokes p plan k.second (p.visits plan k.second past)
    ((p.run plan r).events k.second past)
  /-- The same commands are run. -/
  commands : commandsOf ((p.run plan r).events k.second past) =
    commandsOf ((p.run plan r).events k.first past)
  /-- The runs end alike, with the same failure if with any. -/
  result : ((p.run plan r).result k.second past).2 = ((p.run plan r).result k.first past).2
  length : ((p.run plan r).result k.second past).1.stages.length =
    ((p.run plan r).result k.first past).1.stages.length
  /-- The records are the same, but for times and for the warnings about what was absorbed. -/
  records : ∀ (i : Nat) (record record' : StageRecord),
    ((p.run plan r).result k.first past).1.stages[i]? = some record →
    ((p.run plan r).result k.second past).1.stages[i]? = some record' →
    ∃ absorbed, Replays absorbed (callsAt p k.first (p.visits plan k.first past) i)
        (callsAt p k.second (p.visits plan k.second past) i) ∧
      record.Repeats absorbed record'

/-- **The records of two runs at the same place**: both are of a stage that was come to, or both of one
that was not. -/
theorem repeats_of_recorded {stages : List Stage} {i : Nat} {record record' : StageRecord}
    (h : List.Forall₂ (k.Revisits p) visits visits')
    (hrecord : (p.recordsOf k.first stages visits)[i]? = some record)
    (hrecord' : (p.recordsOf k.second stages visits')[i]? = some record') :
    ∃ absorbed, Replays absorbed (callsAt p k.first visits i) (callsAt p k.second visits' i) ∧
      record.Repeats absorbed record' := by
  obtain ⟨hlength, hget⟩ := List.forall₂_iff_get.mp h
  -- the runs come to equally many stages, so two of the four cases cannot be
  rcases getElem?_recordsOf hrecord with ⟨v, hv, rfl⟩ | ⟨hnone, stage, hstage, rfl⟩
  · obtain ⟨hi, rfl⟩ := List.getElem?_eq_some_iff.mp hv
    have hi' : i < visits'.length := hlength ▸ hi
    rcases getElem?_recordsOf hrecord' with ⟨v', hv', rfl⟩ | ⟨hnone', -⟩
    · obtain ⟨_, rfl⟩ := List.getElem?_eq_some_iff.mp hv'
      obtain ⟨absorbed, hcalls, hrepeats⟩ := (hget i hi hi').record
      refine ⟨absorbed, ?_, hrepeats⟩
      rw [callsAt, callsAt, hv, hv']
      exact hcalls
    · exact absurd hi' (Nat.not_lt.mpr (List.getElem?_eq_none_iff.mp hnone'))
  · have hi' : visits'.length ≤ i := hlength ▸ List.getElem?_eq_none_iff.mp hnone
    rcases getElem?_recordsOf hrecord' with ⟨v', hv', rfl⟩ | ⟨hnone', stage', hstage', rfl⟩
    · obtain ⟨hi, -⟩ := List.getElem?_eq_some_iff.mp hv'
      exact absurd hi (Nat.not_lt.mpr hi')
    · obtain rfl : stage = stage' := Option.some.inj (hstage.symm.trans hstage')
      refine ⟨[], ?_, StageRecord.repeats_notRun stage.id⟩
      rw [callsAt, callsAt, hnone, hnone']
      exact .nil

/-- **What is there already changes nothing but warnings.** -/
theorem repeated_of_rerun (k : Rerun) (files : Files) (settings : Settings) (env : Environment)
    (goal : Goal) (command : String) (began : Timestamp) (past : List Event) :
    k.Repeated (pipeline files settings env) (.ofGoal goal (catalog settings))
      (.begin command began) past := by
  let p := pipeline files settings env
  let plan := Plan.ofGoal goal (catalog settings)
  let r := Report.begin command began
  have hstages : ∀ stage ∈ plan.stages, stage ∈ catalog settings :=
    fun stage h => (List.mem_filter.mp h).1
  have hvisits : List.Forall₂ (k.Revisits p) (p.visits plan k.first past)
      (p.visits plan k.second past) := revisits_visitsFrom hstages _ 1 .empty rfl
  have hfailure := failureOf_eq hvisits
  have hrecords : ∀ runner, ((p.run plan r).result runner past).1.stages =
      p.recordsOf runner plan.stages (p.visits plan runner past) :=
    fun runner => records_run p plan runner past command began
  refine ⟨invokes_run p plan k.first past r, invokes_run p plan k.second past r, ?_, ?_, ?_, ?_⟩
  · rw [events_run, events_run, commandsOf_append, commandsOf_append,
      commandsOf_historyOf _ hvisits, hfailure]
  · rw [outcome_run, outcome_run, hfailure]
  · have hlength : ∀ runner, ((p.run plan r).result runner past).1.stages.length =
        plan.stages.length := by
      intro runner
      rw [hrecords, ← List.length_map StageRecord.stage,
        map_stage_recordsOf (p.stage_visits_prefix plan runner past), List.length_map]
    rw [hlength, hlength]
  · intro i record record' hrecord hrecord'
    rw [hrecords] at hrecord hrecord'
    exact repeats_of_recorded hvisits hrecord hrecord'

end Run

/-! ### A repository that is there already -/

/-- A host where every command succeeds. -/
def freshHost : Runner := fun _ _ => .ok ⟨.success, "ok", "", .zero⟩

/-- The same host, where everything that could be created has been. -/
def servedHost : Runner := fun _ c =>
  if c.isCreation then .ok ⟨.error 1, "", "ALREADY_EXISTS", .zero⟩
  else .ok ⟨.success, "ok", "", .zero⟩

/-- The second host after the first. -/
def servedRerun : Rerun where
  first := freshHost
  second := servedHost
  answers history c := by
    unfold servedHost
    split
    · rename_i hc
      exact .inr (.intro hc rfl rfl (by decide))
    · exact .inl rfl

/-- To publish the images again finds the repository there, and says so. -/
theorem repeated_servedRerun :
    let p := pipeline ⟨[], []⟩ .builtIn
      (.ofList [(Configuration.projectIdName, "demo"), (Configuration.apiKeyName, "key")])
    let plan := Plan.ofGoal .images (catalog .builtIn)
    let r := Report.begin "images" (.afterEpoch .zero)
    servedRerun.Repeated p plan r [] ∧
      ((p.run plan r).result freshHost []).1.stages.map StageRecord.warnings = [[], [], [], []] ∧
      ((p.run plan r).result servedHost []).1.stages.map StageRecord.warnings =
        [[], [], ["Artifact repository consent-agents already exists, reusing it"], []] :=
  ⟨repeated_of_rerun servedRerun ⟨[], []⟩ .builtIn _ .images "images" (.afterEpoch .zero) [],
    by decide +kernel, by decide +kernel⟩

end Rerun

end Rollout
