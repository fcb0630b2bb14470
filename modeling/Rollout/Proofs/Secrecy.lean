import Rollout.CommandLine.Execution
import Rollout.Proofs.Coupling.Run
import Rollout.Proofs.Invocations
import Rollout.Proofs.Validation

/-!
# The key shows nowhere

A configuration holds one secret, the key, and hands it to the template of the agents. It must show
nowhere else: take two environments that differ in the key only; whoever sees the commands, the
lines and the end of a run, but not the document that is read from the standard input, cannot tell
the one from the other. This is a property of two runs, and it is proved by running both in step
(`Rollout.Coupling`), seen without the documents that are applied (`Rollout.secrecy`).

## Where the key could have shown

* *In a command or a line.* The two configurations differ in one field
  (`Rollout.Configuration.eq_of_validate`), and all stages but one read other fields only: they are
  the same program on both sides, and only their steps have to be looked at.
* *In the rendered manifest*, where it does show. Whether there is one depends on the names of the
  entries alone (`Rollout.agree_render`); whether it is well-formed may well depend on the key, and
  so has to be assumed (`Rollout.ChecksAgree`).
* *In a failure.* The mask depends on the key and so may the texts of failures, but not their codes
  (`Rollout.SameCode`).

The main statement is `Rollout.indistinguishable_of_agree`.
-/

namespace Rollout

open Tools Stages

/-! ### Commands without what they read -/

namespace Command

/-- The command without what it reads. -/
def withoutInput (c : Command) : Command := { c with stdin := none }

/-- The command without the document that it applies, if it applies one. -/
def withoutDocument (c : Command) : Command :=
  if c.program = "kubectl" ∧ c.args = ["apply", "-f", "-"] then c.withoutInput else c

@[simp] theorem withoutInput_withoutDocument (c : Command) :
    c.withoutDocument.withoutInput = c.withoutInput := by
  unfold withoutDocument
  split <;> rfl

end Command

/-- The event without the document that its command applies, if it applies one. -/
def Event.withoutDocument : Event → Event
  | ran command answer => ran command.withoutDocument answer
  | e => e

/-- **A runner that does not look at what commands read.** -/
def Runner.IgnoresInput (runner : Runner) : Prop :=
  ∀ past past' c c', past.map Command.withoutInput = past'.map Command.withoutInput →
    c.withoutInput = c'.withoutInput → runner past c = runner past' c'

/-! ### Two environments -/

namespace Configuration

section Environments

variable {env env' : Environment} {c c' : Configuration}

/-- **Environments that differ in the key only make configurations that differ in the key only.** -/
theorem eq_of_validate (hagree : ∀ name, name ≠ apiKeyName → env name = env' name)
    (hc : validate env = .ok c) (hc' : validate env' = .ok c') :
    c' = { c with apiKey := c'.apiKey } := by
  have hsetting {name : String} (hne : name ≠ apiKeyName) :
      setting? env name = setting? env' name := setting?_congr (hagree name hne)
  have hoptional {name : String} (hne : name ≠ apiKeyName) (default : String) :
      optional env name default = optional env' name default := optional_congr (hsetting hne) _
  have hpositive {name : String} (hne : name ≠ apiKeyName) (default : String) :
      positive env name default = positive env' name default := positive_congr (hsetting hne) _
  have hrequired : required env projectIdName projectIdSamples =
      required env' projectIdName projectIdSamples := required_congr (hsetting (by decide)) _
  have hregion : regionOf env = regionOf env' := by
    rw [regionOf, regionOf, hsetting (by decide), hsetting (by decide)]
  obtain ⟨h₁, -, h₂, h₃, h₄, h₅, h₆, h₇, h₈, h₉⟩ := validate_eq_ok_iff.mp hc
  obtain ⟨h₁', -, h₂', h₃', h₄', h₅', h₆', h₇', h₈', h₉'⟩ := validate_eq_ok_iff.mp hc'
  rw [hrequired, h₁'] at h₁
  rw [hpositive (by decide), h₂'] at h₂
  rw [hpositive (by decide), h₃'] at h₃
  rw [hregion, ← h₄'] at h₄
  rw [hoptional (by decide), ← h₅'] at h₅
  rw [hoptional (by decide), ← h₆'] at h₆
  rw [hoptional (by decide), ← h₇'] at h₇
  rw [hoptional (by decide), ← h₈'] at h₈
  rw [hoptional (by decide), ← h₉'] at h₉
  cases c'
  rw [Configuration.mk.injEq]
  exact ⟨Except.ok.inj h₁, rfl, h₄.symm, h₅.symm, Except.ok.inj h₂, h₆.symm, Except.ok.inj h₃,
    h₇.symm, h₈.symm, h₉.symm⟩

end Environments

end Configuration

/-! ### What is seen without the key -/

/-- The two runs of one runner, seen without the documents that are applied. -/
def secrecy (runner : Runner) : Coupling Event where
  left := runner
  right := runner
  view e := some e.withoutDocument

section View

variable {runner : Runner} {xs ys : List Event}

theorem alike_secrecy_iff :
    (secrecy runner).Alike xs ys ↔
      xs.map Event.withoutDocument = ys.map Event.withoutDocument := by
  simp [Coupling.Alike, secrecy, List.filterMap_eq_map']

theorem commandsOf_map (es : List Event) :
    commandsOf (es.map Event.withoutDocument) =
      (commandsOf es).map Command.withoutDocument := by
  rw [commandsOf, commandsOf, List.filterMap_map, List.map_filterMap]
  refine congrArg (List.filterMap · es) (funext fun e => ?_)
  cases e <;> rfl

theorem linesOf_map (es : List Event) : linesOf (es.map Event.withoutDocument) = linesOf es := by
  rw [linesOf, linesOf, List.filterMap_map]
  refine congrArg (List.filterMap · es) (funext fun e => ?_)
  cases e <;> rfl

/-- To a runner that does not look at what commands read, histories that look the same are the
same. -/
theorem answer_eq_of_alike (hrunner : runner.IgnoresInput) (h : (secrecy runner).Alike xs ys)
    {c c' : Command} (hc : c.withoutDocument = c'.withoutDocument) :
    runner (commandsOf xs) c = runner (commandsOf ys) c' := by
  have hcommands := congrArg commandsOf (alike_secrecy_iff.mp h)
  rw [commandsOf_map, commandsOf_map] at hcommands
  have hinputs := congrArg (List.map Command.withoutInput) hcommands
  have hinput := congrArg Command.withoutInput hc
  simp only [List.map_map, Function.comp_def, Command.withoutInput_withoutDocument]
    at hinputs hinput
  exact hrunner _ _ _ _ hinputs hinput

theorem inStep_run_command (hrunner : runner.IgnoresInput) {c c' : Command}
    (hc : c.withoutDocument = c'.withoutDocument) :
    (secrecy runner).InStep Eq (Session.run c) (Session.run c') := by
  intro past past' hpast
  have hanswer := answer_eq_of_alike hrunner hpast hc
  refine ⟨?_, hanswer⟩
  rw [alike_secrecy_iff, Session.events_run, Session.events_run]
  change [Event.ran c.withoutDocument (runner (commandsOf past) c)] =
    [Event.ran c'.withoutDocument (runner (commandsOf past') c')]
  rw [hanswer, hc]

end View

/-! ### Manifests -/

/-- Whether a name has a value depends on the names only. -/
theorem isNone_lookup_congr {xs ys : List (String × String)}
    (h : xs.map Prod.fst = ys.map Prod.fst) (name : String) :
    (xs.lookup name).isNone = (ys.lookup name).isNone := by
  induction xs generalizing ys with
  | nil =>
    obtain rfl := List.map_eq_nil_iff.mp h.symm
    rfl
  | cons x xs ih =>
    rcases ys with _ | ⟨y, ys⟩
    · cases h
    · obtain ⟨hfst, htail⟩ := List.cons.inj h
      obtain ⟨key, value⟩ := x
      obtain ⟨key', value'⟩ := y
      cases hfst
      rw [List.lookup_cons, List.lookup_cons]
      split
      · rfl
      · exact ih htail

theorem Template.missing_congr {xs ys : List (String × String)}
    (h : xs.map Prod.fst = ys.map Prod.fst) (t : Template) : t.missing xs = t.missing ys :=
  List.filter_congr fun name _ => isNone_lookup_congr h name

/-- A manifest is refused with one code. -/
theorem code_of_documents {name document : String} {f : Failure}
    (h : Manifest.documents name document = .error f) :
    f.code = FailureCode.malformedManifest := by
  unfold Manifest.documents at h
  split at h
  · cases h
    rfl
  · split at h
    · cases h
      rfl
    · cases h

/-- **The check of the manifest says the same of two renderings** of the template at a path. -/
def ChecksAgree (files : Files) (path : String) (c c' : Configuration) : Prop :=
  ∀ t d d', Template.ofFile files path = .ok t → t.render c.entries = .ok d →
    t.render c'.entries = .ok d' →
    (Manifest.documents t.name d).isOk = (Manifest.documents t.name d').isOk

/-- Two failures of one code. -/
def SameCode (f f' : Failure) : Prop := f.code = f'.code

theorem SameCode.refl (f : Failure) : SameCode f f := rfl

theorem agree_render (t : Template) (c : Configuration) (key : String) :
    Agree SameCode (fun _ _ => True) (t.render c.entries)
      (t.render { c with apiKey := key }.entries) := by
  have hnames : c.entries.map Prod.fst = { c with apiKey := key }.entries.map Prod.fst := rfl
  have hmissing := t.missing_congr hnames
  unfold Template.render
  rw [← hmissing]
  cases t.missing c.entries with
  | nil => exact .ok trivial
  | cons name names => exact .error rfl

theorem agree_documents {name d d' : String}
    (h : (Manifest.documents name d).isOk = (Manifest.documents name d').isOk) :
    Agree SameCode (fun _ _ => True) (Manifest.documents name d) (Manifest.documents name d') := by
  cases hd : Manifest.documents name d with
  | ok n =>
    cases hd' : Manifest.documents name d' with
    | ok n' => exact .ok trivial
    | error f => simp [hd, hd', Except.isOk, Except.toBool] at h
  | error f =>
    cases hd' : Manifest.documents name d' with
    | ok n' => simp [hd, hd', Except.isOk, Except.toBool] at h
    | error f' => exact .error ((code_of_documents hd).trans (code_of_documents hd').symm)

/-- **The key decides at most what the rendered manifest holds**, once the checks agree. -/
theorem agree_renderAgents {files : Files} {path : String} {c : Configuration} {key : String}
    (h : ChecksAgree files path c { c with apiKey := key }) :
    Agree SameCode (fun x y => x.1 = y.1) (Manifests.renderAgents files c path)
      (Manifests.renderAgents files { c with apiKey := key } path) := by
  have hfile : Agree SameCode Eq (Template.ofFile files path) (Template.ofFile files path) :=
    .refl SameCode.refl Eq.refl _
  refine hfile.bind fun t t' ht ht' htt' => ?_
  subst htt'
  refine (agree_render t c key).bind fun d d' hd hd' _ => ?_
  exact (agree_documents (h t d d' ht hd hd')).bind fun _ _ _ _ _ => .ok rfl

/-! ### The two runs -/

section Runs

variable {runner : Runner} (hrunner : runner.IgnoresInput)

include hrunner

theorem same_of_made_steps {id : StageId} {ε α : Type} {a : Attempt ε α} (h : a.Made (Step id)) :
    (secrecy runner).Same a :=
  Coupling.same_of_made (Coupling.same_of_step fun _ => inStep_run_command hrunner rfl) h

theorem matches_applyDocument (document document' : String) :
    (secrecy runner).Matches Eq Eq (Kubectl.applyDocument document)
      (Kubectl.applyDocument document') := by
  have hcommand : (secrecy runner).InStep Eq
      (Session.run (Kubectl.applyDocumentCommand document))
      (Session.run (Kubectl.applyDocumentCommand document')) := inStep_run_command hrunner rfl
  refine Coupling.Matches.bind (Coupling.matches_runChecked hcommand rfl) fun o o' ho => ?_
  exact .pure (congrArg Output.stdout ho)

theorem matches_deployAgents {files : Files} {s : AgentSettings} {c : Configuration} {key : String}
    (h : ChecksAgree files s.template c { c with apiKey := key }) (policy : Policy) :
    (secrecy runner).Matches SameCode Eq (Manifests.deployAgents files c s policy)
      (Manifests.deployAgents files { c with apiKey := key } s policy) := by
  refine Coupling.Matches.bind (.ofExcept (agree_renderAgents h)) fun x y hxy => ?_
  obtain ⟨name, document⟩ := x
  obtain ⟨name', document'⟩ := y
  obtain rfl : name = name' := hxy
  refine Coupling.Matches.bind ((same_of_made_steps hrunner
    (made_ensureNamespace s.space policy .silent)).matches SameCode.refl Eq.refl) fun o o' ho => ?_
  subst ho
  refine .after_display ?_
  have happly : (secrecy runner).Matches SameCode Eq
      (Attempt.mapFailure (Manifests.rejection name) (Kubectl.applyDocument document))
      (Attempt.mapFailure (Manifests.rejection name) (Kubectl.applyDocument document')) := by
    refine (matches_applyDocument hrunner document document').mapFailure fun e e' he => ?_
    rw [he]
    exact .refl _
  exact Coupling.Matches.bind happly fun _ _ _ => .after_display (.pure rfl)

end Runs

section Stages

variable {runner : Runner} {c c' : Configuration} {ctx ctx' : Context}

/-- The configurations of the two runs, or none in either. -/
inductive Apart (c c' : Configuration) : Option Configuration → Option Configuration → Prop
  | none : Apart c c' none none
  | some : Apart c c' (some c) (some c')

theorem agree_require (h : Apart c c' ctx.configuration ctx'.configuration) :
    Agree SameCode (fun x y => x = c ∧ y = c') ctx.require ctx'.require := by
  unfold Context.require
  generalize ctx.configuration = x at h
  generalize ctx'.configuration = x' at h
  cases h with
  | none => exact .error rfl
  | some => exact .ok ⟨rfl, rfl⟩

variable (c c') in
/-- What came of the work of a stage in the two runs. -/
abbrev WorksAlike : Work → Work → Prop := Coupling.WorksAgree (Apart c c') SameCode Eq

theorem inStep_plain {a b : Attempt Failure Outcome}
    (hctx : Coupling.ContextsAgree (Apart c c') ctx ctx')
    (h : (secrecy runner).Matches SameCode Eq a b) :
    (secrecy runner).InStep (WorksAlike c c') (plain ctx a) (plain ctx' b) :=
  Coupling.InStep.bind h fun _ _ hxy => .pure ⟨hctx, hxy⟩

theorem inStep_configured {f : Configuration → Attempt Failure Outcome}
    (hctx : Coupling.ContextsAgree (Apart c c') ctx ctx')
    (hf : (secrecy runner).Matches SameCode Eq (f c) (f c')) :
    (secrecy runner).InStep (WorksAlike c c') (configured ctx f) (configured ctx' f) := by
  have hrequire := agree_require hctx.configuration
  refine inStep_plain hctx (Coupling.Matches.bind (.ofExcept hrequire) fun x y hxy => ?_)
  obtain ⟨rfl, rfl⟩ := hxy
  exact hf

theorem inStep_validate {env env' : Environment} {key : String}
    (hc : Configuration.validate env = .ok c)
    (hc' : Configuration.validate env' = .ok { c with apiKey := key })
    (hctx : Coupling.ContextsAgree (Apart c { c with apiKey := key }) ctx ctx') :
    (secrecy runner).InStep (WorksAlike c { c with apiKey := key }) (validate env ctx)
      (validate env' ctx') := by
  unfold validate
  rw [hc, hc']
  refine Coupling.InStep.bind (.display _) fun _ _ _ => .pure ?_
  exact ⟨⟨.some, hctx.completed⟩, .ok rfl⟩

/-- The key has no part in the images. Only here does a program recur on the settings with the
configuration at hand; every other stage reads its fields and nothing else. -/
theorem publishAll_congr (c : Configuration) (key : String) (s : ImageSettings)
    (total number : Nat) (images : List ImageSpec) (o : Outcome) :
    Images.publishAll { c with apiKey := key } s total number images o =
      Images.publishAll c s total number images o := by
  induction images generalizing number o with
  | nil => rfl
  | cons image rest ih =>
    exact congrArg (Images.publish c s total number image o >>= ·) (funext fun o' => ih _ o')

theorem buildAndPush_congr (c : Configuration) (key : String) (s : ImageSettings) :
    Images.buildAndPush { c with apiKey := key } s = Images.buildAndPush c s := by
  unfold Images.buildAndPush
  rw [publishAll_congr]
  rfl

/-- **The work of every stage goes in step in the two runs.** -/
theorem inStep_actions (hrunner : runner.IgnoresInput) {files : Files} {settings : Settings}
    {env env' : Environment} {key : String} {stage : Stage}
    (hc : Configuration.validate env = .ok c)
    (hc' : Configuration.validate env' = .ok { c with apiKey := key })
    (hchecks : stage.id = .agentSwarm →
      ChecksAgree files settings.agents.template c { c with apiKey := key })
    (hctx : Coupling.ContextsAgree (Apart c { c with apiKey := key }) ctx ctx') :
    (secrecy runner).InStep (WorksAlike c { c with apiKey := key })
      (actions files settings env stage ctx) (actions files settings env' stage ctx') := by
  have hsame {id : StageId} {a : Attempt Failure Outcome} (h : a.Made (Step id)) :
      (secrecy runner).Matches SameCode Eq a a :=
    (same_of_made_steps hrunner h).matches SameCode.refl Eq.refl
  unfold actions
  -- where the key is not read, the two sides are one program by definition
  cases hid : stage.id with
  | validate => exact inStep_validate hc hc' hctx
  | prerequisites => exact inStep_plain hctx (hsame (made_prerequisites _))
  | project => exact inStep_configured hctx (hsame (made_project c _ _))
  | cluster => exact inStep_configured hctx (hsame (made_cluster c _ _))
  | images =>
    refine inStep_configured hctx ?_
    rw [buildAndPush_congr c key]
    exact hsame (made_buildAndPush c _)
  | baseApp => exact inStep_plain hctx (hsame (made_deployBase files _))
  | agentSwarm => exact inStep_configured hctx (matches_deployAgents hrunner (hchecks hid) _)

theorem twins_pipeline (hrunner : runner.IgnoresInput) {files : Files} {settings : Settings}
    {env env' : Environment} {key : String} {plan : Plan}
    (hc : Configuration.validate env = .ok c)
    (hc' : Configuration.validate env' = .ok { c with apiKey := key })
    (hchecks : plan.contains .agentSwarm →
      ChecksAgree files settings.agents.template c { c with apiKey := key }) :
    Coupling.Twins (secrecy runner) (Apart c { c with apiKey := key }) SameCode Eq plan.stages
      (pipeline files settings env) (pipeline files settings env') where
  none := .none
  failure := .refl
  masked _ h := h
  actions stage hstage ctx ctx' hctx := by
    refine inStep_actions hrunner hc hc' (fun hid => hchecks ?_) hctx
    exact List.contains_iff_mem.mpr (List.mem_map.mpr ⟨stage, hstage, hid⟩)
  await conditions o o' ho := by
    subst ho
    have hmade : Attempt.Made Look
        (Pipeline.await (pipeline files settings env).waiter conditions o) :=
      made_await (made_ofCluster _) conditions o
    have hsame : (secrecy runner).Same _ := Coupling.same_of_made
      (Coupling.same_of_look fun _ => inStep_run_command hrunner rfl) hmade
    exact hsame.matches .refl Eq.refl

end Stages

/-! ### Dry runs -/

open CommandLine in
theorem dryRun_congr {settings : Settings} {env env' : Environment} {plan : Plan}
    {c : Configuration} {key : String} (hc : Configuration.validate env = .ok c)
    (hc' : Configuration.validate env' = .ok { c with apiKey := key }) :
    dryRun ⟨settings, env, plan⟩ = dryRun ⟨settings, env', plan⟩ := by
  have hdescribe : describeConfiguration env = describeConfiguration env' := by
    unfold describeConfiguration
    rw [hc, hc']
    rfl
  unfold dryRun
  rw [hdescribe]

/-! ### The key shows nowhere -/

theorem mapError_eq_of_agree {x y : Except Failure Unit} (h : Agree SameCode Eq x y) :
    x.mapError Failure.code = y.mapError Failure.code := by
  cases h with
  | ok h => rfl
  | error h => exact congrArg Except.error h

/-- **Two environments that cannot be told apart** by a plan, run or only described, from the given
past on. -/
structure Indistinguishable (files : Files) (settings : Settings) (plan : Plan) (runner : Runner)
    (past : List Event) (r : Report) (env env' : Environment) : Prop where
  /-- The runs issue the same commands but for the documents that are applied. -/
  commands :
    (commandsOf (((pipeline files settings env).run plan r).events runner past)).map
        Command.withoutDocument =
      (commandsOf (((pipeline files settings env').run plan r).events runner past)).map
        Command.withoutDocument
  /-- They show the same lines. -/
  lines :
    linesOf (((pipeline files settings env).run plan r).events runner past) =
      linesOf (((pipeline files settings env').run plan r).events runner past)
  /-- They end alike, and with failures of one code. -/
  outcome :
    (((pipeline files settings env).run plan r).result runner past).2.mapError Failure.code =
      (((pipeline files settings env').run plan r).result runner past).2.mapError Failure.code
  /-- The dry runs show the same lines. -/
  dryRun :
    linesOf ((CommandLine.dryRun ⟨settings, env, plan⟩).events runner past) =
      linesOf ((CommandLine.dryRun ⟨settings, env', plan⟩).events runner past)

/-- **The key shows nowhere but in the documents that are applied.** Two environments that differ in
the key only and are both valid cannot be told apart, and their configurations are shown alike, if
the runner does not look at what commands read and the check of the manifest, where there is one,
says the same of both. -/
theorem indistinguishable_of_agree {files : Files} {settings : Settings} {goal : Goal}
    {env env' : Environment} {c c' : Configuration} {runner : Runner}
    (hagree : ∀ name, name ≠ Configuration.apiKeyName → env name = env' name)
    (hc : Configuration.validate env = .ok c) (hc' : Configuration.validate env' = .ok c')
    (hrunner : runner.IgnoresInput)
    (hchecks : (Plan.ofGoal goal (catalog settings)).contains .agentSwarm →
      ChecksAgree files settings.agents.template c c') (past : List Event) (r : Report) :
    Indistinguishable files settings (.ofGoal goal (catalog settings)) runner past r env env' ∧
      c.shownEntries = c'.shownEntries ∧ c.describe = c'.describe := by
  have hkey := Configuration.eq_of_validate hagree hc hc'
  rw [hkey] at hc' hchecks ⊢
  obtain ⟨hevents, hresult⟩ :=
    Coupling.inStep_run (twins_pipeline hrunner hc hc' hchecks) r r past past (.refl past)
  rw [alike_secrecy_iff] at hevents
  refine ⟨⟨?_, ?_, ?_, ?_⟩, rfl, rfl⟩
  · rw [← commandsOf_map, ← commandsOf_map]
    exact congrArg commandsOf hevents
  · rw [← linesOf_map, ← linesOf_map (Session.events _ _ _)]
    exact congrArg linesOf hevents
  · exact mapError_eq_of_agree hresult
  · rw [dryRun_congr hc hc']

/-! ### A template with the key -/

/-- The environment of a small deployment with a given key. -/
def keyedEnvironment (key : String) : Environment :=
  .ofList [(Configuration.projectIdName, "demo"), (Configuration.apiKeyName, key)]

/-- Its configuration. -/
def keyedConfiguration (key : String) : Configuration :=
  ⟨"demo", key, "us-central1", "boa-consent-cluster", "30", "/tmp/audit_log.json", "60", "INFO",
    "consent-agents", "latest"⟩

/-- A template of agents that holds the key and nothing else. -/
def keyTemplate : Template :=
  .parse "k8s/agents-deployment.yaml" "key: $\x7bGOOGLE_API_KEY\x7d"

/-- A working directory with that template. -/
def keyFiles : Files :=
  ⟨[], [(["k8s", "agents-deployment.yaml"], .text "key: $\x7bGOOGLE_API_KEY\x7d")]⟩

/-- Two keys that leave the manifest well-formed. -/
theorem checksAgree_keyFiles :
    ChecksAgree keyFiles Settings.builtIn.agents.template (keyedConfiguration "first")
      (keyedConfiguration "second") := by
  intro t d d' ht hd hd'
  have hfound : Template.ofFile keyFiles Settings.builtIn.agents.template = .ok keyTemplate := rfl
  obtain rfl := Except.ok.inj (hfound.symm.trans ht)
  have hfirst : (keyTemplate.render (keyedConfiguration "first").entries).toOption =
      some "key: first" := by decide +kernel
  have hsecond : (keyTemplate.render (keyedConfiguration "second").entries).toOption =
      some "key: second" := by decide +kernel
  rw [hd] at hfirst
  rw [hd'] at hsecond
  obtain rfl := Option.some.inj hfirst
  obtain rfl := Option.some.inj hsecond
  -- either text is one document with one entry
  decide +kernel

/-- A host on which an operator is logged in and every command succeeds. -/
def welcomingHost : Runner := fun _ _ => .ok ⟨.success, "operator", "", .zero⟩

/-- A run for the agents of the deployment with a given key. -/
def keyedRun (key : String) : Session (Report × Except Failure Unit) :=
  (pipeline keyFiles .builtIn (keyedEnvironment key)).run
    (.ofGoal .deployAgents (catalog .builtIn)) (.begin "deploy-agents" (.afterEpoch .zero))

/-- The command that applies the agents with that key. -/
def keyedManifest (key : String) : Command :=
  { kubectl ["apply", "-f", "-"] with stdin := some ("key: " ++ key) }

/-- Two keys for one deployment of agents cannot be told apart, although each of the two runs applies
a document with its key. -/
theorem indistinguishable_keys :
    (keyedManifest "first" ∈ commandsOf ((keyedRun "first").events welcomingHost []) ∧
      keyedManifest "second" ∈ commandsOf ((keyedRun "second").events welcomingHost [])) ∧
      Indistinguishable keyFiles .builtIn (.ofGoal .deployAgents (catalog .builtIn))
        welcomingHost [] (.begin "deploy-agents" (.afterEpoch .zero)) (keyedEnvironment "first")
        (keyedEnvironment "second") ∧
      (keyedConfiguration "first").shownEntries = (keyedConfiguration "second").shownEntries ∧
      (keyedConfiguration "first").describe = (keyedConfiguration "second").describe := by
  refine ⟨⟨?_, ?_⟩, indistinguishable_of_agree (fun name hname => ?_) rfl rfl
    (fun _ _ _ _ _ _ => rfl) (fun _ => checksAgree_keyFiles) [] _⟩
  · decide +kernel
  · decide +kernel
  · have hne : (name == Configuration.apiKeyName) = false := beq_false_of_ne hname
    simp [keyedEnvironment, Environment.ofList, List.lookup_cons, hne]

end Rollout
