import Rollout.Proofs.Contract
import Rollout.Proofs.Validation
import Rollout.Stages.Actions

/-!
# Where failures come from

The code of a failure tells which part of a run it comes from. Each stage has codes of its own
(`Rollout.StageId.codes`), and so do the waits for workloads (`Rollout.waitCodes`). Besides, each
kind of failure has its codes (`Rollout.Matter.codes`), and the two never disagree: a failure is
`Rollout.Failure.Among` some codes when its code is one of them and one of its kind.

Code and kind are fixed where a failure is made, and nothing that is added to it on its way up
changes them; so each function of a stage only has to name the failures that it makes. The main
statements are `Rollout.among_of_actions`, for the work of a stage, and `Rollout.failsOnly_await`,
for its waits. The work of a stage can fail in one more way, when it reads a configuration that
there is not.
-/

namespace Rollout

open FailureCode

/-! ### Codes -/

/-- The codes in use for each kind of failure. -/
def Matter.codes : Matter → List UInt16
  | configuration .. =>
    [missingValue, placeholderValue, invalidValue, environmentFile, settingsFile]
  | prerequisite _ => [toolMissing, notAuthenticated]
  | provisioning .. =>
    [projectContext, apiEnable, FailureCode.repository, clusterCreate, clusterUnhealthy,
      FailureCode.credentials]
  | execution .. =>
    [FailureCode.execution, commandNotFound, timeout, commandFailed, signalReceived, spawnFailed,
      outputError]
  | build .. => [registryAuth, imageBuild, imagePush]
  | template .. => [unresolvedTemplate, unreadableTemplate]
  | apply .. => [malformedManifest, rejectedManifest, namespaceFailed]
  | readiness .. => [readinessTimeout, probeFailed, unreadableStatus]
  | pipeline .. => [dependencyNotMet, FailureCode.missingConfiguration, reportWrite]
  | usage => [unknownCommand]

/-- The codes with which the work of a stage can fail. -/
def StageId.codes : StageId → List UInt16
  | validate => [missingValue, placeholderValue, invalidValue]
  | prerequisites =>
    [toolMissing, notAuthenticated, FailureCode.execution, commandNotFound, timeout, commandFailed,
      signalReceived, spawnFailed, outputError]
  | project => [projectContext, apiEnable, FailureCode.repository]
  | cluster => [clusterCreate, clusterUnhealthy, FailureCode.credentials]
  | images => [registryAuth, imageBuild, imagePush]
  | baseApp => [rejectedManifest]
  | agentSwarm =>
    [unresolvedTemplate, unreadableTemplate, malformedManifest, rejectedManifest, namespaceFailed]

/-- The codes with which a wait can fail. -/
def waitCodes : List UInt16 := [readinessTimeout, probeFailed, unreadableStatus]

/-- The stages whose work reads the configuration. -/
def StageId.readsConfiguration : StageId → Bool
  | project | cluster | images | agentSwarm => true
  | validate | prerequisites | baseApp => false

/-- **A failure among some codes**: its code is one of them, and one of its kind. -/
structure Failure.Among (codes : List UInt16) (f : Failure) : Prop where
  code : f.code ∈ codes
  kind : f.code ∈ f.matter.codes

namespace Failure.Among

variable {codes codes' : List UInt16} {f : Failure}

/-- Both memberships are found by evaluation, whatever texts the failure carries. -/
theorem of (hcode : codes.contains f.code = true)
    (hkind : f.matter.codes.contains f.code = true) : f.Among codes :=
  ⟨List.mem_of_elem_eq_true hcode, List.mem_of_elem_eq_true hkind⟩

theorem mono (h : f.Among codes) (hsubset : codes ⊆ codes') : f.Among codes' :=
  ⟨hsubset h.code, h.kind⟩

theorem masked (h : f.Among codes) (mask : String → String) : (f.masked mask).Among codes := by
  have hkind : (f.matter.masked mask).codes = f.matter.codes := by cases f.matter <;> rfl
  exact ⟨h.code, hkind ▸ h.kind⟩

/-- No code of a kind but the pipeline's own is one of the pipeline's. -/
theorem matter_ne_pipeline (h : f.Among codes)
    (hcodes : ∀ code ∈ codes, code ∉ (Matter.pipeline none []).codes) (stage : Option String)
    (causes : List String) : f.matter ≠ .pipeline stage causes := by
  intro hmatter
  have hkind := h.kind
  rw [hmatter] at hkind
  exact hcodes _ h.code hkind

end Failure.Among

/-! ### Attempts that fail in known ways -/

namespace Attempt

variable {ε ε' α β : Type} {P : ε → Prop}

/-- An attempt whose failures are all as `P` says. -/
abbrev FailsOnly (a : Attempt ε α) (P : ε → Prop) : Prop :=
  a.Ensures (fun _ _ => True) fun e _ => P e

theorem FailsOnly.of_error {a : Attempt ε α} (h : a.FailsOnly P) {runner : Runner}
    {past : List Event} {e : ε} (he : a.result runner past = .error e) : P e := by
  have hcontract := h runner past
  rwa [he] at hcontract

theorem failsOnly_ofExcept {r : Except ε α} (h : ∀ e, r = .error e → P e) :
    (ofExcept r).FailsOnly P :=
  (ensures_ofExcept r).mono (fun _ _ _ => trivial) fun e _ he => h e he.1

theorem failsOnly_fail {e : ε} (h : P e) : (fail e : Attempt ε α).FailsOnly P :=
  failsOnly_ofExcept fun _ he => Except.error.inj he ▸ h

theorem failsOnly_pure (x : α) : (pure x : Attempt ε α).FailsOnly P :=
  (ensures_pure x).mono (fun _ _ _ => trivial) nofun

theorem FailsOnly.bind {a : Attempt ε α} {f : α → Attempt ε β} (ha : a.FailsOnly P)
    (hf : ∀ x, (f x).FailsOnly P) : (a >>= f).FailsOnly P :=
  Ensures.bind ha (fun x _ _ => hf x) fun _ _ h => h

/-- However an attempt fails, its failure is worded anew. -/
theorem failsOnly_mapFailure (a : Attempt ε α) {P : ε' → Prop} {word : ε → ε'}
    (h : ∀ e, P (word e)) : (mapFailure word a).FailsOnly P := by
  have hany : a.FailsOnly fun _ => True := by
    intro runner past
    split <;> trivial
  refine (hany.mapFailure word).mono (fun _ _ _ => trivial) ?_
  rintro e calls ⟨cause, rfl, -⟩
  exact h cause

end Attempt

open Tools Stages Attempt

/-! ### The configuration -/

/-- The failure of an environment from which no configuration can be made is about one of the keys,
and has no causes. -/
structure Failure.Refusal (f : Failure) : Prop where
  code : f.code ∈ StageId.validate.codes
  matter : ∃ key remediation, f.matter = .configuration (some key) remediation []

section Configuration

open Rollout.Configuration

variable {env : Environment} {name default : String} {samples : List String} {f : Failure}

theorem refusal_of_required (h : required env name samples = .error f) : f.Refusal := by
  unfold required at h
  split at h
  · cases h
    exact ⟨List.mem_of_elem_eq_true rfl, name, _, rfl⟩
  · split at h
    · cases h
      exact ⟨List.mem_of_elem_eq_true rfl, name, _, rfl⟩
    · cases h

theorem refusal_of_positive (h : positive env name default = .error f) : f.Refusal := by
  unfold positive at h
  dsimp only at h
  split at h
  · cases h
  · cases h
    exact ⟨List.mem_of_elem_eq_true rfl, name, _, rfl⟩

theorem refusal_of_validate (h : Configuration.validate env = .error f) : f.Refusal := by
  rw [validate_eq] at h
  rcases error_of_bind h with h | ⟨projectId, -, h⟩
  · exact refusal_of_required h
  rcases error_of_bind h with h | ⟨apiKey, -, h⟩
  · exact refusal_of_required h
  rcases error_of_bind h with h | ⟨monitoring, -, h⟩
  · exact refusal_of_positive h
  rcases error_of_bind h with h | ⟨report, -, h⟩
  · exact refusal_of_positive h
  · cases h

end Configuration

theorem Failure.Refusal.among {f : Failure} (h : f.Refusal) : f.Among StageId.validate.codes := by
  obtain ⟨key, remediation, hmatter⟩ := h.matter
  have hsubset : StageId.validate.codes ⊆ (Matter.configuration none none []).codes := by decide
  exact ⟨h.code, hmatter ▸ hsubset h.code⟩

/-- Nothing of it is changed by a mask that hides nothing. -/
theorem Failure.Refusal.masked_none {f : Failure} (h : f.Refusal) :
    f.masked (Context.mask none) = f := by
  obtain ⟨code, message, matter⟩ := f
  obtain ⟨key, remediation, rfl⟩ := h.matter
  cases remediation <;> rfl

/-! ### The work of the stages -/

theorem among_toFailure (e : ProcessError) : e.toFailure.Among StageId.prerequisites.codes := by
  cases e <;> exact .of rfl rfl

/-- The work of a stage that fails with the codes of the stage only. -/
abbrev Attempt.Proper (id : StageId) (a : Attempt Failure Outcome) : Prop :=
  a.FailsOnly (Failure.Among id.codes)

theorem failsOnly_findTools (tools : List String) :
    (Prerequisites.findTools tools).FailsOnly (Failure.Among StageId.prerequisites.codes) := by
  induction tools with
  | nil => exact failsOnly_pure ()
  | cons tool rest ih =>
    refine FailsOnly.bind ?_ fun _ => ih
    refine (failsOnly_mapFailure _ among_toFailure).bind fun found => ?_
    split
    · exact failsOnly_pure ()
    · exact failsOnly_fail (.of rfl rfl)

theorem proper_prerequisites (tools : List String) :
    (Prerequisites.check tools).Proper .prerequisites := by
  refine (failsOnly_findTools tools).bind fun _ => .after_display ?_
  refine (failsOnly_mapFailure _ fun _ => .of rfl rfl).bind fun account => ?_
  cases account with
  | some account => exact .after_display (failsOnly_pure _)
  | none => exact failsOnly_fail (.of rfl rfl)

/-- Something that is created fails as its command does: what is told of it cannot fail. -/
theorem failsOnly_creation {P : Failure → Prop} {ε : Type} {a : Attempt ε Creation}
    {word : ε → Failure} (hword : ∀ e, P (word e)) {f : Creation → Attempt Failure Outcome}
    {l : Line} {o : Outcome} {text : String}
    (hcreated : f .created = do Attempt.display l; return o)
    (hexisted : f .alreadyExisted = o.warn text) : (mapFailure word a >>= f).FailsOnly P := by
  refine (failsOnly_mapFailure a hword).bind fun creation => ?_
  cases creation with
  | created =>
    rw [hcreated]
    exact .after_display (failsOnly_pure _)
  | alreadyExisted =>
    rw [hexisted]
    exact .after_display (failsOnly_pure _)

theorem proper_project (c : Configuration) (apis : List String) (policy : Policy) :
    (Provisioning.project c apis policy).Proper .project := by
  have hselect : (Provisioning.selectProject c.projectId).FailsOnly
      (Failure.Among StageId.project.codes) :=
    .after_display (failsOnly_mapFailure _ fun _ => .of rfl rfl)
  have henable : (Provisioning.enableServices c.projectId apis).FailsOnly
      (Failure.Among StageId.project.codes) := by
    unfold Provisioning.enableServices
    split
    · exact failsOnly_pure ()
    · exact .after_display (failsOnly_mapFailure _ fun _ => .of rfl rfl)
  have hcreate : (Provisioning.createRepository c policy .silent).Proper .project :=
    .after_display (failsOnly_creation (fun _ => .of rfl rfl) rfl rfl)
  exact hselect.bind fun _ => henable.bind fun _ => hcreate.bind fun _ => failsOnly_pure _

theorem proper_cluster (c : Configuration) (s : ClusterSettings) (policy : Policy) :
    (Provisioning.cluster c s policy).Proper .cluster := by
  have hensure : (Provisioning.ensureCluster c s policy).Proper .cluster := by
    refine (failsOnly_mapFailure _ fun _ => .of rfl rfl).bind fun status => ?_
    cases status with
    | some status =>
      dsimp only
      split
      · exact .after_display (failsOnly_pure _)
      · exact failsOnly_fail (.of rfl rfl)
    | none => exact .after_display (failsOnly_creation (fun _ => .of rfl rfl) rfl rfl)
  exact hensure.bind fun _ => (failsOnly_mapFailure _ fun _ => .of rfl rfl).bind fun _ =>
    .after_display (failsOnly_pure _)

theorem proper_publishAll (c : Configuration) (s : ImageSettings) (total number : Nat)
    (images : List ImageSpec) (o : Outcome) :
    (Images.publishAll c s total number images o).Proper .images := by
  induction images generalizing number o with
  | nil => exact failsOnly_pure o
  | cons image rest ih =>
    refine FailsOnly.bind ?_ fun o' => ih (number + 1) o'
    refine .after_display ((failsOnly_mapFailure _ fun _ => .of rfl rfl).bind fun _ => ?_)
    refine .after_display ((failsOnly_mapFailure _ fun _ => .of rfl rfl).bind fun _ => ?_)
    exact .after_display (failsOnly_pure _)

theorem proper_buildAndPush (c : Configuration) (s : ImageSettings) :
    (Images.buildAndPush c s).Proper .images :=
  .after_display ((failsOnly_mapFailure _ fun _ => .of rfl rfl).bind fun _ =>
    proper_publishAll c s _ _ _ _)

theorem failsOnly_applyAll (files : Files) (paths : List String) :
    (Manifests.applyAll files paths).FailsOnly (Failure.Among StageId.baseApp.codes) := by
  induction paths with
  | nil => exact failsOnly_pure ()
  | cons path rest ih =>
    refine FailsOnly.bind ?_ fun _ => ih
    unfold Manifests.applyPath
    split
    · exact .after_display ((failsOnly_mapFailure _ fun _ => .of rfl rfl).bind fun _ =>
        failsOnly_pure ())
    · exact failsOnly_fail (.of rfl rfl)

theorem proper_deployBase (files : Files) (s : BaseAppSettings) :
    (Manifests.deployBase files s).Proper .baseApp :=
  (failsOnly_applyAll files _).bind fun _ => .after_display (failsOnly_pure _)

/-- A manifest that is not applied fails for its template or for what became of it. -/
theorem among_of_renderAgents {files : Files} {c : Configuration} {path : String} {f : Failure}
    (h : Manifests.renderAgents files c path = .error f) : f.Among StageId.agentSwarm.codes := by
  rcases error_of_bind h with h | ⟨t, -, h⟩
  · unfold Template.ofFile at h
    split at h
    · cases h
    · cases h
      exact .of rfl rfl
  rcases error_of_bind h with h | ⟨document, -, h⟩
  · unfold Template.render at h
    split at h
    · cases h
    · cases h
      exact .of rfl rfl
  rcases error_of_bind h with h | ⟨n, -, h⟩
  · unfold Manifest.documents at h
    split at h
    · cases h
      exact .of rfl rfl
    · split at h
      · cases h
        exact .of rfl rfl
      · cases h
  · cases h

theorem proper_deployAgents (files : Files) (c : Configuration) (s : AgentSettings)
    (policy : Policy) : (Manifests.deployAgents files c s policy).Proper .agentSwarm := by
  have hensure (o : Outcome) : (Manifests.ensureNamespace s.space policy o).Proper .agentSwarm :=
    failsOnly_creation (fun _ => .of rfl rfl) rfl rfl
  refine (failsOnly_ofExcept fun _ => among_of_renderAgents).bind fun rendered =>
    (hensure _).bind fun _ => .after_display ?_
  exact (failsOnly_mapFailure _ fun _ => .of rfl rfl).bind fun _ =>
    .after_display (failsOnly_pure _)

section Actions

variable {files : Files} {settings : Settings} {env : Environment} {stage : Stage} {ctx : Context}
  {runner : Runner} {past : List Event} {f : Failure}

theorem among_of_plain {id : StageId} {a : Attempt Failure Outcome} (ha : a.Proper id)
    (h : ((plain ctx a).result runner past).outcome = .error f) : f.Among id.codes :=
  ha.of_error h

/-- Work that reads a configuration fails in its own way, if there is one to read. -/
theorem among_of_configured {id : StageId} {work : Configuration → Attempt Failure Outcome}
    (hwork : ∀ c, (work c).Proper id) {c : Configuration} (hc : ctx.configuration = some c)
    (h : ((configured ctx work).result runner past).outcome = .error f) : f.Among id.codes := by
  have hrequire : ctx.require = .ok c := by rw [Context.require, hc]
  refine among_of_plain (FailsOnly.bind (failsOnly_ofExcept fun e he => ?_) hwork) h
  rw [hrequire] at he
  cases he

/-- **The work of a stage fails with the codes of the stage**, unless it reads a configuration that
there is not. -/
theorem among_of_actions
    (hc : stage.id.readsConfiguration = true → ∃ c, ctx.configuration = some c)
    (h : ((actions files settings env stage ctx).result runner past).outcome = .error f) :
    f.Among stage.id.codes := by
  unfold actions at h
  revert hc h
  cases stage.id with
  | validate =>
    intro hc h
    simp only [validate] at h
    split at h
    · rename_i f' hf'
      obtain rfl := Except.error.inj h
      exact (refusal_of_validate hf').among
    · cases h
  | prerequisites => exact fun _ h => among_of_plain (proper_prerequisites _) h
  | baseApp => exact fun _ h => among_of_plain (proper_deployBase files _) h
  | project =>
    intro hc h
    obtain ⟨c, hc⟩ := hc rfl
    exact among_of_configured (fun c => proper_project c _ _) hc h
  | cluster =>
    intro hc h
    obtain ⟨c, hc⟩ := hc rfl
    exact among_of_configured (fun c => proper_cluster c _ _) hc h
  | images =>
    intro hc h
    obtain ⟨c, hc⟩ := hc rfl
    exact among_of_configured (fun c => proper_buildAndPush c _) hc h
  | agentSwarm =>
    intro hc h
    obtain ⟨c, hc⟩ := hc rfl
    exact among_of_configured (fun c => proper_deployAgents files c _ _) hc h

end Actions

/-! ### Waits -/

theorem failsOnly_ofCluster (limit : Duration) (c : Condition) :
    (Probe.ofCluster limit c).FailsOnly (Failure.Among [probeFailed, unreadableStatus]) := by
  refine (failsOnly_mapFailure _ fun _ => .of rfl rfl).bind fun text =>
    failsOnly_ofExcept fun f hf => ?_
  unfold Probe.judge at hf
  split at hf
  · obtain rfl := Except.error.inj hf
    exact .of rfl rfl
  · rename_i object _
    cases he : Status.evaluate c.kind c.predicate object with
    | ok status =>
      rw [he] at hf
      cases hf
    | error message =>
      rw [he] at hf
      obtain rfl := Except.error.inj hf
      exact .of rfl rfl

section Waits

variable {w : Waiter} {P : Failure → Prop} (hprobe : ∀ c, (w.probe c).FailsOnly P)

include hprobe

/-- A wait fails only when a look does. -/
theorem failsOnly_waitFrom (c : Condition) (attempts : Nat) (elapsed : Duration) :
    (w.waitFrom c attempts elapsed).FailsOnly P := by
  fun_induction w.waitFrom c attempts elapsed with
  | case1 attempts elapsed ih =>
    refine .after_silent (fun _ _ => rfl) fun _ => (hprobe c).bind fun status => ?_
    split
    · exact failsOnly_pure _
    · split
      · rename_i h
        exact .after_silent (fun _ _ => rfl) fun _ => ih h
      · exact failsOnly_pure _

theorem failsOnly_await
    (htimeout : ∀ c attempts status, P (Waiter.timeoutFailure c attempts status))
    (conditions : List Condition) (o : Outcome) :
    (Pipeline.await w conditions o).FailsOnly P := by
  induction conditions generalizing o with
  | nil => exact failsOnly_pure o
  | cons c rest ih =>
    refine .after_display (FailsOnly.bind ?_ fun detail => FailsOnly.bind ?_ fun o' => ih o')
    · refine (failsOnly_waitFrom hprobe c 0 .zero).bind fun wait => ?_
      cases wait with
      | satisfied _ _ detail => exact failsOnly_pure _
      | timedOut attempts _ status => exact failsOnly_fail (htimeout ..)
    · unfold Pipeline.announce
      split
      · exact .after_display (failsOnly_pure _)
      · exact .after_display (failsOnly_pure _)

end Waits

/-- A workload that is not ready in time fails with a code of the waits. -/
theorem among_timeoutFailure (c : Condition) (attempts : Nat) (status : String) :
    (Waiter.timeoutFailure c attempts status).Among waitCodes :=
  .of rfl rfl

end Rollout
