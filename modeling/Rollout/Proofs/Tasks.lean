import Rollout.Proofs.Answered
import Rollout.Proofs.Evidence
import Rollout.Proofs.Masking
import Rollout.Proofs.Pushes

/-!
# Tasks that are done one by one

Two stages are lists of tasks: the one that publishes images, and the one that applies the manifests
of the base application. A *task* is a command that has to succeed (`Rollout.Task`), and a list of
tasks is done in its order until one of them fails. What has been run then is the *trail* of the
tasks (`Rollout.Trail`), of which there are three sorts:

| trail | calls | failure |
|---|---|---|
| all are done | the commands of all tasks, all successful | |
| one cannot be begun | those of the tasks before it, all successful | that of the task |
| one fails | those of the tasks before it, all successful, and its own, which is not | that of the task |

So the commands are always a prefix of those that are due, nothing is skipped or repeated, and the
failure is that of the task at which the trail ends. The contract `Rollout.Attempt.Does` says of an
attempt that it does tasks; it composes along the list (`Rollout.Attempt.Does.bind`).

The tasks of the two stages are `Rollout.Stages.Images.tasks` and `Rollout.Stages.Manifests.tasks`,
and the main statement is `Rollout.stepwise_stages`.
-/

namespace Rollout

/-! ### Tasks and their trails -/

/-- **A task**: a command that has to succeed, and how it is told that it does not. -/
structure Task where
  command : Command
  /-- Unless this is so the command is not run at all. -/
  ready : Prop := True
  /-- The kind of failure. -/
  title : String
  code : UInt16
  /-- What the failure is about. -/
  subject : String

/-- A failure is that of a task. -/
structure Task.Fails (t : Task) (f : Failure) : Prop where
  title : f.matter.title = t.title
  code : f.code = t.code
  subject : f.matter.subject? = some t.subject

/-- **The trail of some tasks**: what has been run, and the task that failed, if one did. -/
inductive Trail (tasks : List Task) : List Call → Option Task → Prop
  | done {calls : List Call} (hready : ∀ t ∈ tasks, t.ready)
      (hcalls : Carried (tasks.map Task.command) calls) : Trail tasks calls none
  | barred {before behind : List Task} {t : Task} {calls : List Call}
      (htasks : tasks = before ++ t :: behind) (hready : ∀ t' ∈ before, t'.ready)
      (hcalls : Carried (before.map Task.command) calls) (hbarred : ¬t.ready) :
      Trail tasks calls (some t)
  | failed {before behind : List Task} {t : Task} {calls : List Call} {answer : Answer}
      (htasks : tasks = before ++ t :: behind) (hready : ∀ t' ∈ before, t'.ready)
      (hcalls : Carried (before.map Task.command) calls) (hbegun : t.ready)
      (hfailed : ¬Succeeded (t.command, answer)) :
      Trail tasks (calls ++ [(t.command, answer)]) (some t)

namespace Trail

variable {tasks front behind : List Task} {calls before : List Call} {failed? : Option Task}
  {t : Task}

theorem nil : Trail [] [] none := .done nofun ⟨rfl, nofun⟩

/-- The first task cannot be begun. -/
theorem barred_first (behind : List Task) (hbarred : ¬t.ready) :
    Trail (t :: behind) [] (some t) :=
  .barred (List.nil_append _).symm nofun ⟨rfl, nofun⟩ hbarred

/-- The first task fails. -/
theorem failed_first (behind : List Task) {answer : Answer} (hbegun : t.ready)
    (hfailed : ¬Succeeded (t.command, answer)) :
    Trail (t :: behind) [(t.command, answer)] (some t) := by
  have hnone : Carried (([] : List Task).map Task.command) [] := ⟨rfl, nofun⟩
  exact .failed (List.nil_append _).symm nofun hnone hbegun hfailed

/-- Behind tasks that are all done. -/
theorem after (h : Trail tasks calls failed?) (hfront : Trail front before none) :
    Trail (front ++ tasks) (before ++ calls) failed? := by
  obtain ⟨hready, hcalls⟩ := hfront
  have hboth {more : List Task} (hmore : ∀ t ∈ more, t.ready) : ∀ t ∈ front ++ more, t.ready :=
    fun t ht => (List.mem_append.mp ht).elim (hready t) (hmore t)
  have hcarried {more : List Task} {after : List Call}
      (hmore : Carried (more.map Task.command) after) :
      Carried ((front ++ more).map Task.command) (before ++ after) := by
    rw [List.map_append]
    exact hcalls.append hmore
  cases h with
  | done hready' hcalls' => exact .done (hboth hready') (hcarried hcalls')
  | barred htasks hready' hcalls' hbarred =>
    rw [htasks, ← List.append_assoc]
    exact .barred rfl (hboth hready') (hcarried hcalls') hbarred
  | failed htasks hready' hcalls' hbegun hfailed =>
    rw [htasks, ← List.append_assoc, ← List.append_assoc]
    exact .failed rfl (hboth hready') (hcarried hcalls') hbegun hfailed

/-- Where a task has failed, those behind it leave no trail. -/
theorem append (h : Trail tasks calls (some t)) (behind : List Task) :
    Trail (tasks ++ behind) calls (some t) := by
  cases h with
  | barred htasks hready hcalls hbarred =>
    rw [htasks, List.append_assoc]
    exact .barred rfl hready hcalls hbarred
  | failed htasks hready hcalls hbegun hfailed =>
    rw [htasks, List.append_assoc]
    exact .failed rfl hready hcalls hbegun hfailed

/-- **The commands of a trail are a prefix of those that are due.** -/
theorem commands_prefix (h : Trail tasks calls failed?) :
    calls.map Prod.fst <+: tasks.map Task.command := by
  cases h with
  | done _ hcalls => exact hcalls.1 ▸ List.prefix_rfl
  | barred htasks _ hcalls _ =>
    rw [htasks, hcalls.1, List.map_append]
    exact List.prefix_append _ _
  | failed htasks _ hcalls _ _ =>
    rw [htasks, List.map_append, hcalls.1, List.map_append]
    exact (List.prefix_append_right_inj _).mpr (List.prefix_append [_] _)

/-- Whatever was not the last command succeeded. -/
theorem succeeded_dropLast (h : Trail tasks calls failed?) :
    ∀ call ∈ calls.dropLast, Succeeded call := by
  cases h with
  | done _ hcalls => exact fun call hcall => hcalls.2 call (List.dropLast_subset _ hcall)
  | barred _ _ hcalls _ => exact fun call hcall => hcalls.2 call (List.dropLast_subset _ hcall)
  | failed _ _ hcalls _ _ =>
    rw [List.dropLast_concat]
    exact hcalls.2

/-- **No task has failed exactly where all commands were run and succeeded.** -/
theorem eq_none_iff (h : Trail tasks calls failed?) :
    failed? = none ↔ Carried (tasks.map Task.command) calls := by
  cases h with
  | done _ hcalls => exact iff_of_true rfl hcalls
  | barred htasks _ hcalls _ =>
    refine iff_of_false nofun fun hall => ?_
    have hlength := congrArg List.length (hall.1.symm.trans hcalls.1)
    rw [htasks] at hlength
    simp at hlength
  | failed _ _ _ _ hfailed =>
    refine iff_of_false nofun fun hall => hfailed (hall.2 _ ?_)
    exact List.mem_append_right _ List.mem_cons_self

end Trail

/-! ### Attempts that do tasks -/

namespace Attempt

variable {α β : Type} {a : Attempt Failure α} {tasks front behind : List Task} {P : α → Prop}
  {Q : β → Prop} {t : Task}

/-- **An attempt does some tasks**, and `P` holds of its value if all of them are done. -/
def Does (a : Attempt Failure α) (tasks : List Task) (P : α → Prop) : Prop :=
  a.Ensures (fun x calls => P x ∧ Trail tasks calls none)
    fun f calls => ∃ t, t.Fails f ∧ Trail tasks calls (some t)

theorem does_pure {x : α} (h : P x) : (pure x : Attempt Failure α).Does [] P :=
  (ensures_pure x).mono (fun _ _ hx => ⟨hx.1 ▸ h, hx.2 ▸ .nil⟩) nofun

theorem Does.after_display {l : Line} {f : Unit → Attempt Failure α} (h : (f ()).Does tasks P) :
    (display l >>= f).Does tasks P :=
  Ensures.after_display h

/-- **Composition**: the tasks of the second attempt come behind those of the first. -/
theorem Does.bind {f : α → Attempt Failure β} (ha : a.Does front P)
    (hf : ∀ x, P x → (f x).Does behind Q) : (a >>= f).Does (front ++ behind) Q := by
  refine Ensures.bind ha ?_ ?_
  · rintro x before ⟨hx, hfront⟩
    refine (hf x hx).mono ?_ ?_
    · exact fun y after ⟨hy, htrail⟩ => ⟨hy, htrail.after hfront⟩
    · exact fun e after ⟨t, ht, htrail⟩ => ⟨t, ht, htrail.after hfront⟩
  · exact fun e calls ⟨t, ht, htrail⟩ => ⟨t, ht, htrail.append behind⟩

/-- A command that has to succeed does its task, whatever is read from its output. -/
theorem does_runChecked (t : Task) (hready : t.ready) (word : ProcessError → Failure)
    (hword : ∀ e, t.Fails (word e)) (read : Output → α) :
    (mapFailure word do return read (← runChecked t.command)).Does [t] fun _ => True := by
  refine (((ensures_runChecked t.command).read read).mapFailure word).mono ?_ ?_
  · rintro _ calls ⟨o, -, rfl, hs⟩
    exact ⟨trivial, .done (List.forall_mem_singleton.mpr hready) (.single hs)⟩
  · rintro _ calls ⟨e, rfl, answer, rfl, hno⟩
    have hfailed : ¬Succeeded (t.command, answer) := fun ⟨o, ho, hs⟩ => hno o ho hs
    exact ⟨t, hword e, .failed_first [] hready hfailed⟩

end Attempt

open Attempt Tools Stages

/-! ### Images -/

namespace Stages.Images

variable {c : Configuration} {s : ImageSettings}

/-- The credentials for the registry are configured. -/
def credentialsTask (c : Configuration) : Task where
  command :=
    { program := "gcloud"
      args := ["auth", "configure-docker", c.region ++ "-docker.pkg.dev", "--quiet"]
      env := [("CLOUDSDK_CORE_DISABLE_PROMPTS", "1")] }
  title := "Build"
  code := 5001
  subject := c.region ++ "-docker.pkg.dev"

/-- An image is built. -/
def buildTask (c : Configuration) (s : ImageSettings) (image : ImageSpec) : Task where
  command :=
    { program := "docker"
      args := ["build", "-t", c.imageRef image.name] ++
        s.platform.toList.map (fun platform => "--platform=" ++ platform) ++
        ["-f", s.dockerfileFor image, s.context] }
  title := "Build"
  code := 5002
  subject := c.imageRef image.name

/-- An image is pushed. -/
def pushTask (c : Configuration) (image : ImageSpec) : Task where
  command := { program := "docker", args := ["push", c.imageRef image.name] }
  title := "Build"
  code := 5003
  subject := c.imageRef image.name

/-- **What is due to publish the images**: the credentials, and then for each image its build and its
push. -/
def tasks (c : Configuration) (s : ImageSettings) : List Task :=
  credentialsTask c :: s.workloads.flatMap fun image => [buildTask c s image, pushTask c image]

theorem buildCommand_eq (c : Configuration) (s : ImageSettings) (image : ImageSpec) :
    Docker.buildCommand (c.imageRef image.name) (s.dockerfileFor image) s.context s.platform =
      (buildTask c s image).command := by
  have hflag : "--platform=" = "--" ++ "platform" ++ "=" := by decide
  rw [Docker.buildCommand, buildTask, hflag]
  cases s.platform <;> rfl

theorem does_publish (total number : Nat) (image : ImageSpec) (o : Outcome) :
    (publish c s total number image o).Does [buildTask c s image, pushTask c image]
      fun o' => o' = o.note (c.imageRef image.name) := by
  have hbuild := does_runChecked (buildTask c s image) trivial
    (failure FailureCode.imageBuild "docker build failed" (c.imageRef image.name))
    (fun _ => ⟨rfl, rfl, rfl⟩) fun _ => ()
  rw [← buildCommand_eq] at hbuild
  refine .after_display (hbuild.bind fun _ _ => .after_display ?_)
  exact (does_runChecked (pushTask c image) trivial _ (fun _ => ⟨rfl, rfl, rfl⟩) _).bind fun _ _ =>
    .after_display (does_pure rfl)

/-- The recursion is that of the stage; each image is noted when both of its tasks are done. -/
theorem does_publishAll (total number : Nat) (images : List ImageSpec) (o : Outcome) :
    (publishAll c s total number images o).Does
      (images.flatMap fun image => [buildTask c s image, pushTask c image])
      fun o' => o' = ⟨o.warnings, o.notes ++ c.imageRefs images⟩ := by
  induction images generalizing number o with
  | nil => exact does_pure (by rw [Configuration.imageRefs, List.map_nil, List.append_nil])
  | cons image rest ih =>
    refine (does_publish total number image o).bind fun o' ho' => ?_
    have hnotes : o'.notes ++ c.imageRefs rest = o.notes ++ c.imageRefs (image :: rest) := by
      rw [ho']
      exact List.append_assoc _ _ _
    have hwarnings : o'.warnings = o.warnings := by rw [ho']; rfl
    rw [← hnotes, ← hwarnings]
    exact ih (number + 1) o'

theorem does_buildAndPush (c : Configuration) (s : ImageSettings) :
    (buildAndPush c s).Does (tasks c s) fun o => o = ⟨[], c.imageRefs s.workloads⟩ :=
  .after_display ((does_runChecked (credentialsTask c) trivial _ (fun _ => ⟨rfl, rfl, rfl⟩) _).bind
    fun _ _ => does_publishAll _ _ _ _)

end Stages.Images

/-! ### Manifests -/

namespace Stages.Manifests

/-- What is at a path is applied, if there is anything. -/
def applyTask (files : Files) (path : String) : Task where
  command := { program := "kubectl", args := ["apply", "-f", path] }
  ready := files.exists? path = true
  title := "Apply"
  code := 7002
  subject := path

/-- **What is due to apply the base application**: what has to be there first, in its order, and then
its manifests. -/
def tasks (files : Files) (s : BaseAppSettings) : List Task :=
  (s.extras ++ [s.manifests]).map (applyTask files)

theorem does_applyPath (files : Files) (path : String) :
    (applyPath files path).Does [applyTask files path] fun _ => True := by
  unfold applyPath
  split
  · rename_i hexists
    exact .after_display ((does_runChecked (applyTask files path) hexists _
      (fun _ => ⟨rfl, rfl, rfl⟩) _).bind fun _ _ => does_pure trivial)
  · rename_i hmissing
    refine (ensures_ofExcept _).mono nofun ?_
    rintro f calls ⟨hf, rfl⟩
    obtain rfl := Except.error.inj hf
    exact ⟨applyTask files path, ⟨rfl, rfl, rfl⟩, .barred_first [] hmissing⟩

theorem does_applyAll (files : Files) (paths : List String) :
    (applyAll files paths).Does (paths.map (applyTask files)) fun _ => True := by
  induction paths with
  | nil => exact does_pure trivial
  | cons path rest ih => exact (does_applyPath files path).bind fun _ _ => ih

theorem does_deployBase (files : Files) (s : BaseAppSettings) :
    (deployBase files s).Does (tasks files s) fun o => o = .silent := by
  rw [← List.append_nil (tasks files s)]
  exact (does_applyAll files _).bind fun _ _ => .after_display (does_pure rfl)

end Stages.Manifests

/-! ### What is run of what is due -/

/-- **Tasks are done step by step**, where `notes` are noted of them when all are done. -/
structure Stepwise (runner : Runner) (past : List Command) (tasks : List Task)
    (notes : List String) (calls : List Call) (result : Except Failure Outcome) : Prop where
  /-- The answers are those of the runner. -/
  answered : Answered runner past calls
  /-- The commands are those that are due, in their order, up to some point. -/
  commands_prefix : calls.map Prod.fst <+: tasks.map Task.command
  /-- All but the last of them have succeeded. -/
  succeeded_dropLast : ∀ call ∈ calls.dropLast, Succeeded call
  /-- The stage succeeds exactly if all were run, and the last has succeeded, too. -/
  ok_iff : (∃ o, result = .ok o) ↔ Carried (tasks.map Task.command) calls
  /-- It then notes what it has to, and warns of nothing. -/
  outcome : ∀ o, result = .ok o → o = ⟨[], notes⟩ ∧ ∀ t ∈ tasks, t.ready
  /-- Otherwise its failure is that of the first task that could not be begun or failed, and no
  command behind it was run. -/
  failure : ∀ f, result = .error f → ∃ t, t.Fails f ∧ Trail tasks calls (some t)

theorem Attempt.Does.stepwise {a : Attempt Failure Outcome} {tasks : List Task}
    {notes : List String} (h : a.Does tasks fun o => o = ⟨[], notes⟩) (hfaithful : a.Faithful)
    (runner : Runner) (past : List Event) :
    Stepwise runner (commandsOf past) tasks notes (callsOf (a.events runner past))
      (a.result runner past) := by
  have hanswered := hfaithful runner past
  have hdoes := h runner past
  generalize callsOf (a.events runner past) = calls at hanswered hdoes ⊢
  cases hresult : a.result runner past with
  | ok o =>
    rw [hresult] at hdoes
    obtain ⟨ho, htrail⟩ := hdoes
    refine ⟨hanswered, htrail.commands_prefix, htrail.succeeded_dropLast,
      iff_of_true ⟨o, rfl⟩ (htrail.eq_none_iff.mp rfl), ?_, nofun⟩
    intro o' ho'
    obtain rfl := Except.ok.inj ho'
    cases htrail with
    | done hready _ => exact ⟨ho, hready⟩
  | error f =>
    rw [hresult] at hdoes
    obtain ⟨t, ht, htrail⟩ := hdoes
    refine ⟨hanswered, htrail.commands_prefix, htrail.succeeded_dropLast, ?_, nofun, ?_⟩
    · exact iff_of_false nofun fun hall => Option.some_ne_none t (htrail.eq_none_iff.mpr hall)
    · intro f' hf'
      obtain rfl := Except.error.inj hf'
      exact ⟨t, ht, htrail⟩

/-- **Images are published and manifests are applied step by step**, whatever answers the commands and
whatever has happened before: for every configuration and all settings of images, and for all files
and all settings of the base application. -/
theorem stepwise_stages (runner : Runner) (past : List Event) :
    (∀ (c : Configuration) (s : ImageSettings),
      Stepwise runner (commandsOf past) (Images.tasks c s) (c.imageRefs s.workloads)
        (callsOf ((Images.buildAndPush c s).events runner past))
        ((Images.buildAndPush c s).result runner past)) ∧
    ∀ (files : Files) (s : BaseAppSettings),
      Stepwise runner (commandsOf past) (Manifests.tasks files s) []
        (callsOf ((Manifests.deployBase files s).events runner past))
        ((Manifests.deployBase files s).result runner past) := by
  refine ⟨fun c s => ?_, fun files s => ?_⟩
  · exact (Images.does_buildAndPush c s).stepwise
      (faithful_of_made_steps (made_buildAndPush c s)) runner past
  · exact (Manifests.does_deployBase files s).stepwise
      (faithful_of_made_steps (made_deployBase files s)) runner past

end Rollout
