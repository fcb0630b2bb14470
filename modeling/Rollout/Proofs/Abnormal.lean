import Rollout.Proofs.FailFast

/-!
# Commands that are killed

A command that runs into its time limit, or that a signal ends, says nothing of what it was asked:
what stands on its standard error may be anything. A run should end with it. There are two ways in
which it does not, and this file proves that there are no others (`Rollout.killed_run`). A tool may
be killed when it is only started to see whether it is there, for that it could be started is all
that was asked. And a query of the cluster that is killed is taken for one that found no cluster if
its standard error says so. The second is a mistake, and `Rollout.query_killed` is a run that makes
it: the run goes on and creates the cluster.

All of it is read off the grammar of smooth histories, `Rollout.Smooth`: every rule for a command
that did not succeed looks at the exit status, but for the one about the cluster.
-/

namespace Rollout

open Tools

/-- A command that was ended from outside. -/
inductive ExitStatus.Killed : ExitStatus → Prop
  | timeout : Killed .timeout
  | signal (number : Int32) : Killed (.signal number)

/-- **A command that a run may go on behind although it was killed**, given the calls before it. -/
inductive Overlooked (before : List Call) (c : Command) (o : Output) : Prop
  /-- A tool that is started in place of its lookup. -/
  | start (earlier : List Call) (tool name : String)
      (hbefore : before = earlier ++ [(whichCommand tool, notThere name)])
      (hc : c = versionCommand tool)
  /-- A query of the cluster that says that there is none. -/
  | query (project location name : String)
      (hc : c = Gcloud.clusterQuery project location name)
      (h : Gcloud.TellsAbsence o.stderr)

theorem ExitStatus.Killed.ne_success {s : ExitStatus} (h : s.Killed) : s ≠ .success := by
  cases h <;> exact nofun

theorem ExitStatus.Killed.ne_error {s : ExitStatus} (h : s.Killed) (n : Int32) : s ≠ .error n := by
  cases h <;> exact nofun

/-- Where a run may go on behind a command that was killed, the command was overlooked. -/
theorem overlooked_of_goesOn {before after : List Call} {c : Command} {o : Output}
    (h : GoesOn before (c, .ok o) after) (hkilled : o.status.Killed) : Overlooked before c o := by
  cases h with
  | tolerated _ _ htolerated =>
    cases htolerated with
    | success hs => exact absurd hs hkilled.ne_success
    | absent project location name _ habsent => exact .query project location name rfl habsent
    | duplicate _ hs _ => exact absurd hs (hkilled.ne_error _)
  | start earlier tool name _ _ => exact .start earlier tool name rfl rfl

section Run

open Stages

variable (files : Files) (settings : Settings) (env : Environment) (goal : Goal) (r : Report)
  (runner : Runner) (past : List Event)

/-- A run keeps the discipline of smooth histories. -/
theorem keeps_smooth_run :
    smooth.Keeps (fun x => x.2 = .ok ())
      ((pipeline files settings env).run (.ofGoal goal (catalog settings)) r) :=
  Discipline.keeps_run (p := pipeline files settings env) (keeps_actions files settings env)
    (fun conditions o =>
      Discipline.obeys_of_made obeys_of_look (made_await (made_ofCluster _) conditions o)) _ r

/-- **A command that is killed is the last of its run, and the run fails**, whatever the command has
left on its outputs, unless it is one that is overlooked. -/
theorem killed_run {before after : List Call} {c : Command} {o : Output}
    (hsplit : callsOf (((pipeline files settings env).run (.ofGoal goal (catalog settings)) r).events
      runner past) = before ++ (c, .ok o) :: after)
    (hkilled : o.status.Killed) (hseen : ¬Overlooked before c o) :
    after = [] ∧ ∃ f, (((pipeline files settings env).run (.ofGoal goal (catalog settings)) r).result
      runner past).2 = .error f := by
  obtain ⟨hcut, hwhole⟩ := keeps_smooth_run files settings env goal r runner past
  have hlast : after = [] :=
    Classical.byContradiction fun hafter =>
      hseen (overlooked_of_goesOn (hcut.goesOn before _ after hsplit hafter) hkilled)
  refine ⟨hlast, ?_⟩
  cases hresult : (((pipeline files settings env).run (.ofGoal goal (catalog settings)) r).result
      runner past).2 with
  | error f => exact ⟨f, rfl⟩
  | ok u =>
    -- a run that does not fail has got past its last command as well
    have hgoes := (hwhole hresult).goesOn before _ after hsplit
    exact absurd (overlooked_of_goesOn hgoes hkilled) hseen

end Run

/-! ### Two hosts that kill commands -/

open Stages

/-- A host where every command is killed, and says that something was not found. -/
def hostileHost : Runner := fun _ _ => .ok ⟨.signal 9, "", "Not found", .zero⟩

/-- To look for the first tool is the last command on that host. -/
theorem killed_run_hostileHost :
    let run := (pipeline .empty .builtIn .empty).run (.ofGoal .check (catalog .builtIn))
      (.begin "check" (.afterEpoch .zero))
    callsOf (run.events hostileHost []) =
        [] ++ [(whichCommand "gcloud", .ok ⟨.signal 9, "", "Not found", .zero⟩)] ∧
      ∃ f, (run.result hostileHost []).2 = .error f := by
  intro run
  have hcalls : callsOf (run.events hostileHost []) =
      [] ++ [(whichCommand "gcloud", .ok ⟨.signal 9, "", "Not found", .zero⟩)] := rfl
  refine ⟨hcalls, (killed_run .empty .builtIn .empty .check _ hostileHost [] hcalls (.signal 9) ?_).2⟩
  rintro (⟨earlier, tool, name, hbefore, -⟩ | ⟨project, location, name, hc, -⟩)
  · simp at hbefore
  · have hprogram : "which" = "gcloud" := congrArg Command.program hc
    exact absurd hprogram (by decide)

/-- A host that kills the query of the cluster, and lets every other command succeed. -/
def impatientHost : Runner := fun _ c =>
  if c.args.contains "describe" then .ok ⟨.signal 9, "", "Not found", .zero⟩
  else .ok ⟨.success, "operator", "", .zero⟩

/-- A run for the cluster on that host. -/
def impatientRun : Session (Report × Except Failure Unit) :=
  (pipeline .empty .builtIn
      (.ofList [(Configuration.projectIdName, "demo"), (Configuration.apiKeyName, "key")])).run
    (.ofGoal .cluster (catalog .builtIn)) (.begin "cluster" (.afterEpoch .zero))

/-- **A command that is killed and goes unnoticed.** The query of the cluster is ended by a signal;
the run goes on to create the cluster, fetches the credentials for it, and does not fail. -/
theorem query_killed :
    let query := Gcloud.clusterQuery "demo" "us-central1" "boa-consent-cluster"
    Settings.builtIn.check = .ok .builtIn ∧
      (∀ tool, query ≠ versionCommand tool) ∧
      (∀ history, impatientHost history query = .ok ⟨.signal 9, "", "Not found", .zero⟩) ∧
      (commandsOf (impatientRun.events impatientHost [])).drop 7 =
        [query,
          Gcloud.clusterCreation "demo" "us-central1" "boa-consent-cluster" true (some "regular"),
          Gcloud.clusterGrant "demo" "us-central1" "boa-consent-cluster"] ∧
      (impatientRun.result impatientHost []).2 = .ok () := by
  intro query
  have hversion (tool : String) : query ≠ versionCommand tool := by
    intro h
    have hargs : query.args.length = 1 := congrArg (fun c => c.args.length) h
    exact absurd hargs (by decide)
  have hok : (impatientRun.result impatientHost []).2.isOk = true := by decide +kernel
  refine ⟨rfl, hversion, fun _ => rfl, by decide +kernel, ?_⟩
  cases hresult : (impatientRun.result impatientHost []).2 with
  | ok u => rfl
  | error f =>
    rw [hresult] at hok
    cases hok

end Rollout
