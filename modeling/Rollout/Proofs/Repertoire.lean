import Rollout.Proofs.Attempt
import Rollout.Stages.Actions

/-!
# What the stages are made of

An attempt is a function of what answers its commands and of what has happened before, and so could
do anything with either. The attempts of a deployment do not: they are put together from a few kinds
of *steps*, each a command whose output is judged at once, with lines and pauses in between, and
they know of the past only what their steps have told them. `Rollout.Attempt.Made` says so. What
holds of the steps and survives composition then holds of every such attempt, by one induction. The
steps in turn are made of *asking*, which is to run one command and to take whatever it answers
(`Rollout.Asks`); where a property looks no further than the single answer, asking is the only step.

The second half of the file takes every stage apart in this way. Each stage has steps of its own
(`Rollout.Step`), and to wait for workloads takes one more (`Rollout.Look`). The main statements are
`Rollout.actions_cases`, for the work of the stages, and `Rollout.made_await`, for their waits. Of
what the stages share, the work adds the configuration at most (`Rollout.ctx_actions_cases`).
-/

namespace Rollout

/-- **An attempt made of steps**, where `S` tells which attempts count as steps. -/
inductive Attempt.Made (S : (ε α : Type) → Attempt ε α → Prop) :
    {ε α : Type} → Attempt ε α → Prop
  | step {ε α : Type} {a : Attempt ε α} (h : S ε α a) : Made S a
  | ofExcept {ε α : Type} (e : Except ε α) : Made S (Attempt.ofExcept e)
  | display {ε : Type} (l : Line) : Made S (Attempt.display l : Attempt ε Unit)
  | sleep {ε : Type} (d : Duration) : Made S (Attempt.always (Session.sleep d) : Attempt ε Unit)
  | check {ε : Type} (c : Condition) : Made S (Attempt.always (Session.check c) : Attempt ε Unit)
  | bind {ε α β : Type} {a : Attempt ε α} {f : α → Attempt ε β} (ha : Made S a)
      (hf : ∀ x, Made S (f x)) : Made S (a >>= f)
  | mapFailure {ε ε' α : Type} {a : Attempt ε α} (f : ε → ε') (ha : Made S a) :
      Made S (Attempt.mapFailure f a)

namespace Attempt.Made

variable {ε α β : Type} {S : (ε α : Type) → Attempt ε α → Prop}

theorem pure (x : α) : Made S (pure x : Attempt ε α) := .ofExcept (.ok x)

theorem fail (e : ε) : Made S (Attempt.fail e : Attempt ε α) := .ofExcept (.error e)

/-- Behind a line. -/
theorem after_display {l : Line} {f : Unit → Attempt ε β} (hf : Made S (f ())) :
    Made S (Attempt.display l >>= f) :=
  (Made.display l).bind fun _ => hf

/-- A step, with whatever is read from what it answers and however its failure is worded. -/
theorem read {ε' : Type} {a : Attempt ε α} (h : S ε α a) (word : ε → ε') (read : α → β) :
    Made S (Attempt.mapFailure word do return read (← a)) :=
  .mapFailure word ((Made.step h).bind fun _ => .pure _)

end Attempt.Made

open Tools Stages Attempt

/-! ### Steps -/

/-- **The steps of a stage.** -/
inductive Step : StageId → (ε α : Type) → Attempt ε α → Prop
  | findTool (tool : String) : Step .prerequisites _ _ (Prerequisites.findTool tool)
  | authList : Step .prerequisites _ _ (runChecked Gcloud.authListCommand)
  | setProject (project : String) :
      Step .project _ _ (runChecked (Gcloud.setProjectCommand project))
  | enableServices (project : String) (services : List String) :
      Step .project _ _ (runChecked (Gcloud.enableServicesCommand project services))
  | createRepository (policy : Policy) (label project location repository : String) :
      Step .project _ _ (Provisioning.created policy label
        (Gcloud.createRepository project location repository))
  | clusterStatus (name : Gcloud.ClusterName) : Step .cluster _ _ (Gcloud.clusterStatus name)
  | createCluster (policy : Policy) (label : String) (name : Gcloud.ClusterName)
      (privateNodes : Bool) (channel : Option String) :
      Step .cluster _ _ (Provisioning.created policy label
        (Gcloud.createCluster name privateNodes channel))
  | credentials (name : Gcloud.ClusterName) :
      Step .cluster _ _ (runChecked (Gcloud.credentialsCommand name))
  | configureDocker (host : String) :
      Step .images _ _ (runChecked (Gcloud.configureDockerCommand host))
  | build (image dockerfile context : String) (platform : Option String) :
      Step .images _ _ (runChecked (Docker.buildCommand image dockerfile context platform))
  | push (image : String) : Step .images _ _ (runChecked (Docker.pushCommand image))
  | applyPath (path : String) : Step .baseApp _ _ (runChecked (Kubectl.applyPathCommand path))
  | createNamespace (policy : Policy) (label space : String) :
      Step .agentSwarm _ _ (Provisioning.created policy label (Kubectl.createNamespace space))
  | applyDocument (document : String) :
      Step .agentSwarm _ _ (runChecked (Kubectl.applyDocumentCommand document))

/-- The step that looks at a workload. -/
inductive Look : (ε α : Type) → Attempt ε α → Prop
  | get (kind name space : String) (limit : Duration) :
      Look _ _ (runChecked (Kubectl.getCommand kind name space limit))

/-! ### What the steps are made of -/

/-- **Asking**: a command is run, and whatever it answers is the value. `P` tells which commands may
be asked. -/
inductive Asks (P : Command → Prop) : (ε α : Type) → Attempt ε α → Prop
  | ask {ε : Type} {c : Command} (h : P c) : Asks P ε Answer (Attempt.always (Session.run c))

section Asking

variable {P : Command → Prop} {c : Command}

theorem made_run (h : P c) : Made (Asks P) (Attempt.run c) := by
  have hrun : Attempt.run c = (do Attempt.ofExcept (← Attempt.always (Session.run c))) := rfl
  rw [hrun]
  exact (Made.step (.ask h)).bind fun answer => .ofExcept answer

theorem made_runChecked (h : P c) : Made (Asks P) (Attempt.runChecked c) :=
  (made_run h).bind fun _ => .ofExcept _

theorem made_created (h : P c) (policy : Policy) (label : String) :
    Made (Asks P) (Provisioning.created policy label (Attempt.run c)) :=
  (made_run h).bind fun _ => .ofExcept _

theorem made_clusterStatus {name : Gcloud.ClusterName}
    (h : P (Gcloud.describeClusterCommand name)) : Made (Asks P) (Gcloud.clusterStatus name) := by
  refine (made_run h).bind fun o => ?_
  split
  · exact .pure _
  · split
    · exact .pure _
    · exact (Made.ofExcept _).bind fun _ => .pure _

/-- A lookup as an attempt that asks twice at most. -/
theorem which_eq (tool : String) :
    which tool = (do
      match ← Attempt.always (Session.run (whichCommand tool)) with
      | .ok output => Attempt.ofExcept (.ok (isFound output))
      | .error (.commandNotFound _) =>
        match ← Attempt.always (Session.run (versionCommand tool)) with
        | .ok _ => Attempt.ofExcept (.ok true)
        | .error (.commandNotFound _) => Attempt.ofExcept (.ok false)
        | .error e => Attempt.ofExcept (.error e)
      | .error e => Attempt.ofExcept (.error e)) :=
  rfl

theorem made_which {tool : String} (h : P (whichCommand tool)) (h' : P (versionCommand tool)) :
    Made (Asks P) (which tool) := by
  rw [which_eq]
  refine (Made.step (.ask h)).bind fun answer => ?_
  split
  · exact .ofExcept _
  · refine (Made.step (.ask h')).bind fun answer => ?_
    split <;> exact .ofExcept _
  · exact .ofExcept _

theorem made_findTool {tool : String} (h : P (whichCommand tool)) (h' : P (versionCommand tool)) :
    Made (Asks P) (Prerequisites.findTool tool) := by
  refine ((made_which h h').mapFailure _).bind fun found => ?_
  split
  · exact .pure _
  · exact .fail _

end Asking

/-- **Every step is made of asking.** -/
theorem made_of_step {id : StageId} {ε α : Type} {a : Attempt ε α} (h : Step id ε α a) :
    Made (Asks fun _ => True) a := by
  cases h with
  | findTool tool => exact made_findTool trivial trivial
  | createRepository => exact made_created trivial _ _
  | clusterStatus name => exact made_clusterStatus trivial
  | createCluster => exact made_created trivial _ _
  | createNamespace => exact made_created trivial _ _
  | authList => exact made_runChecked trivial
  | setProject => exact made_runChecked trivial
  | enableServices => exact made_runChecked trivial
  | credentials => exact made_runChecked trivial
  | configureDocker => exact made_runChecked trivial
  | build => exact made_runChecked trivial
  | push => exact made_runChecked trivial
  | applyPath => exact made_runChecked trivial
  | applyDocument => exact made_runChecked trivial

/-! ### Waits -/

theorem made_ofCluster (limit : Duration) (c : Condition) : Made Look (Probe.ofCluster limit c) :=
  (Made.read (.get ..) _ _).bind fun _ => .ofExcept _

section Waits

variable {S : (ε α : Type) → Attempt ε α → Prop} {w : Waiter} (hprobe : ∀ c, Made S (w.probe c))

include hprobe

/-- The recursion is that of the wait itself: each round is one look, and one pause before the
next. -/
theorem made_waitFrom (c : Condition) (attempts : Nat) (elapsed : Duration) :
    Made S (w.waitFrom c attempts elapsed) := by
  fun_induction w.waitFrom c attempts elapsed with
  | case1 attempts elapsed ih =>
    refine (Made.check c).bind fun _ => (hprobe c).bind fun status => ?_
    split
    · exact .pure _
    · split
      · rename_i h
        exact (Made.sleep _).bind fun _ => ih h
      · exact .pure _

theorem made_require (c : Condition) : Made S (w.require c) := by
  refine (made_waitFrom hprobe c 0 .zero).bind fun wait => ?_
  cases wait with
  | satisfied _ _ detail => exact .pure _
  | timedOut attempts _ status => exact .fail _

/-- **Waits are made of looks.** -/
theorem made_await (conditions : List Condition) (o : Outcome) :
    Made S (Pipeline.await w conditions o) := by
  induction conditions generalizing o with
  | nil => exact .pure o
  | cons c rest ih =>
    refine .after_display ((made_require hprobe c).bind fun detail => ?_)
    -- what is left is to tell of the workload, and then the waits behind it
    refine Made.bind ?_ fun o' => ih o'
    unfold Pipeline.announce
    split
    · exact .after_display (.pure _)
    · exact .after_display (.pure _)

end Waits

/-! ### The work of the stages -/

theorem events_plain (ctx : Context) (a : Attempt Failure Outcome) (runner : Runner)
    (past : List Event) : (plain ctx a).events runner past = a.events runner past :=
  List.append_nil _

section Work

variable {S : (ε α : Type) → Attempt ε α → Prop}

theorem made_warn (o : Outcome) (text : String) : Made S (o.warn text : Attempt Failure Outcome) :=
  .after_display (.pure _)

/-- A step that creates something, judged by a policy, with what is told of it. -/
theorem made_creation {ε : Type} {a : Attempt ε Creation} (h : S ε Creation a) (word : ε → Failure)
    {f : Creation → Attempt Failure Outcome} {l : Line} {o : Outcome} {text : String}
    (hcreated : f .created = do Attempt.display l; return o)
    (hexisted : f .alreadyExisted = o.warn text) : Made S (Attempt.mapFailure word a >>= f) := by
  refine (Made.mapFailure word (.step h)).bind fun creation => ?_
  cases creation with
  | created =>
    rw [hcreated]
    exact .after_display (.pure _)
  | alreadyExisted =>
    rw [hexisted]
    exact made_warn o text

end Work

theorem made_findTools (tools : List String) :
    Made (Step .prerequisites) (Prerequisites.findTools tools) := by
  induction tools with
  | nil => exact .pure ()
  | cons tool rest ih => exact (Made.step (.findTool tool)).bind fun _ => ih

theorem made_prerequisites (tools : List String) :
    Made (Step .prerequisites) (Prerequisites.check tools) := by
  refine (made_findTools tools).bind fun _ => .after_display ?_
  refine (Made.read .authList _ _).bind fun account => ?_
  cases account with
  | some account => exact .after_display (.pure _)
  | none => exact .fail _

theorem made_project (c : Configuration) (apis : List String) (policy : Policy) :
    Made (Step .project) (Provisioning.project c apis policy) := by
  have hselect : Made (Step .project) (Provisioning.selectProject c.projectId) :=
    .after_display (.read (.setProject _) _ _)
  have henable : Made (Step .project) (Provisioning.enableServices c.projectId apis) := by
    unfold Provisioning.enableServices
    split
    · exact .pure ()
    · exact .after_display (.read (.enableServices ..) _ _)
  have hcreate : Made (Step .project) (Provisioning.createRepository c policy .silent) :=
    .after_display (made_creation (.createRepository ..) _ rfl rfl)
  exact hselect.bind fun _ => henable.bind fun _ => hcreate.bind fun _ => .pure _

theorem made_ensureCluster (c : Configuration) (s : ClusterSettings) (policy : Policy) :
    Made (Step .cluster) (Provisioning.ensureCluster c s policy) := by
  refine (Made.mapFailure _ (.step (.clusterStatus _))).bind fun status => ?_
  cases status with
  | none => exact .after_display (made_creation (.createCluster ..) _ rfl rfl)
  | some status =>
    dsimp only
    split
    · exact .after_display (.pure _)
    · exact .fail _

theorem made_cluster (c : Configuration) (s : ClusterSettings) (policy : Policy) :
    Made (Step .cluster) (Provisioning.cluster c s policy) :=
  (made_ensureCluster c s policy).bind fun _ => (Made.read (.credentials _) _ _).bind fun _ =>
    .after_display (.pure _)

theorem made_publishAll (c : Configuration) (s : ImageSettings) (total number : Nat)
    (images : List ImageSpec) (o : Outcome) :
    Made (Step .images) (Images.publishAll c s total number images o) := by
  induction images generalizing number o with
  | nil => exact .pure o
  | cons image rest ih =>
    refine Made.bind ?_ fun o' => ih (number + 1) o'
    refine .after_display ((Made.read (.build ..) _ _).bind fun _ => ?_)
    refine .after_display ((Made.read (.push _) _ _).bind fun _ => ?_)
    exact .after_display (.pure _)

theorem made_buildAndPush (c : Configuration) (s : ImageSettings) :
    Made (Step .images) (Images.buildAndPush c s) :=
  .after_display ((Made.read (.configureDocker _) _ _).bind fun _ => made_publishAll c s _ _ _ _)

theorem made_applyAll (files : Files) (paths : List String) :
    Made (Step .baseApp) (Manifests.applyAll files paths) := by
  induction paths with
  | nil => exact .pure ()
  | cons path rest ih =>
    refine Made.bind ?_ fun _ => ih
    unfold Manifests.applyPath
    split
    · exact .after_display ((Made.read (.applyPath path) _ _).bind fun _ => .pure _)
    · exact .fail _

theorem made_deployBase (files : Files) (s : BaseAppSettings) :
    Made (Step .baseApp) (Manifests.deployBase files s) :=
  (made_applyAll files _).bind fun _ => .after_display (.pure _)

theorem made_ensureNamespace (space : String) (policy : Policy) (o : Outcome) :
    Made (Step .agentSwarm) (Manifests.ensureNamespace space policy o) :=
  made_creation (.createNamespace ..) _ rfl rfl

theorem made_deployAgents (files : Files) (c : Configuration) (s : AgentSettings)
    (policy : Policy) : Made (Step .agentSwarm) (Manifests.deployAgents files c s policy) := by
  refine (Made.ofExcept _).bind fun rendered => (made_ensureNamespace _ _ _).bind fun _ => ?_
  exact .after_display ((Made.read (.applyDocument _) _ _).bind fun _ => .after_display (.pure _))

/-- **The work of a stage** is to validate the environment or is made of the steps of the stage. -/
theorem actions_cases (files : Files) (settings : Settings) (env : Environment) (stage : Stage)
    (ctx : Context) :
    actions files settings env stage ctx = validate env ctx ∨
      ∃ a, Made (Step stage.id) a ∧ actions files settings env stage ctx = plain ctx a := by
  unfold actions
  cases stage.id with
  | validate => exact .inl rfl
  | prerequisites => exact .inr ⟨_, made_prerequisites _, rfl⟩
  | project => exact .inr ⟨_, (Made.ofExcept _).bind fun c => made_project c _ _, rfl⟩
  | cluster => exact .inr ⟨_, (Made.ofExcept _).bind fun c => made_cluster c _ _, rfl⟩
  | images => exact .inr ⟨_, (Made.ofExcept _).bind fun c => made_buildAndPush c _, rfl⟩
  | baseApp => exact .inr ⟨_, made_deployBase files _, rfl⟩
  | agentSwarm => exact .inr ⟨_, (Made.ofExcept _).bind fun c => made_deployAgents files c _ _, rfl⟩

/-- **What the work of a stage hands back** is what it is given, but that validation may add the
configuration of the environment. -/
theorem ctx_actions_cases (files : Files) (settings : Settings) (env : Environment) (stage : Stage)
    (ctx : Context) (runner : Runner) (past : List Event) :
    ((actions files settings env stage ctx).result runner past).ctx = ctx ∨
      ∃ c, Configuration.validate env = .ok c ∧
        ((actions files settings env stage ctx).result runner past).ctx =
          { ctx with configuration := some c } := by
  rcases actions_cases files settings env stage ctx with hwork | ⟨a, -, hwork⟩
  · rw [hwork, validate]
    split
    · exact .inl rfl
    · exact .inr ⟨_, ‹_›, rfl⟩
  · rw [hwork]
    exact .inl rfl

end Rollout
