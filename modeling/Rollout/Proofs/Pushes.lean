import Rollout.Proofs.Contract
import Rollout.Proofs.Discipline
import Rollout.Proofs.Visits

/-!
# What is pushed

The names of images become references to a registry, and references of different names differ,
whatever the configuration (`Rollout.Configuration.imageRef_injective`). The stage that publishes
the images pushes the references of the images in their order, and stops where it fails; no other
stage pushes anything. A plan comes to each of its stages once. So where the names of the images
differ, no reference is pushed twice in a run, `Rollout.nodup_pushedOf_run`.

A push that fails is a push: it is the commands that count here, whatever they are answered.
-/

namespace Rollout

open Tools Stages Attempt

/-! ### References -/

/-- **References of different images differ.** -/
theorem Configuration.imageRef_injective (c : Configuration) {name name' : String}
    (h : c.imageRef name = c.imageRef name') : name = name' := by
  unfold imageRef at h
  simpa [String.append_left_inj, String.append_right_inj] using h

/-- The references to some images, in the order of the images. -/
def Configuration.imageRefs (c : Configuration) (images : List ImageSpec) : List String :=
  images.map fun image => c.imageRef image.name

/-- Images with different names have different references. -/
theorem Configuration.nodup_imageRefs (c : Configuration) {images : List ImageSpec}
    (h : (images.map ImageSpec.name).Nodup) : (c.imageRefs images).Nodup := by
  have hnames := List.pairwise_map.mp h
  exact List.pairwise_map.mpr (hnames.imp fun hne heq => hne (c.imageRef_injective heq))

/-! ### Pushes -/

/-- The reference that a command pushes, if it pushes one. -/
def Command.pushed? (c : Command) : Option String :=
  if c.program = "docker" then
    match c.args with
    | ["push", image] => some image
    | _ => none
  else none

/-- The references that some calls push, in their order. -/
def pushedOf (calls : List Call) : List String := calls.filterMap fun call => call.1.pushed?

theorem pushedOf_append (before after : List Call) :
    pushedOf (before ++ after) = pushedOf before ++ pushedOf after :=
  List.filterMap_append

/-! ### What pushes nothing -/

/-- **Nothing is pushed**, by a piece of a run that gets through or by one that does not. -/
def unpushed : Discipline where
  Whole calls := pushedOf calls = []
  Cut calls := pushedOf calls = []
  whole_nil := rfl
  whole_append h h' := by rw [pushedOf_append, h, h', List.append_nil]
  cut_of_whole h := h
  cut_append h h' := by rw [pushedOf_append, h, h', List.append_nil]

section Unpushed

variable {ε α : Type} {a : Attempt ε α}

/-- The commands that push nothing. -/
abbrev PushesNothing (c : Command) : Prop := c.pushed? = none

theorem unpushed_of_asks (h : a.Made (Asks PushesNothing)) : unpushed.Obeys a := by
  refine Discipline.obeys_of_made (S := Asks PushesNothing) ?_ h
  intro ε α a hask runner past
  cases hask with
  | @ask c hc =>
    have hnone : pushedOf [(c, runner (commandsOf past) c)] = [] :=
      List.filterMap_cons_none hc
    exact ⟨hnone, fun _ _ _ => hnone⟩

/-- To start a tool pushes nothing, whatever the tool is. -/
theorem pushesNothing_versionCommand (tool : String) : PushesNothing (versionCommand tool) := by
  simp [PushesNothing, Command.pushed?, versionCommand, Command.of]

/-- **The steps of all other stages push nothing.** -/
theorem unpushed_of_step {id : StageId} (h : Step id ε α a) (hid : id ≠ .images) :
    unpushed.Obeys a := by
  refine unpushed_of_asks ?_
  cases h with
  | findTool tool => exact made_findTool rfl (pushesNothing_versionCommand tool)
  | authList => exact made_runChecked rfl
  | setProject => exact made_runChecked rfl
  | enableServices => exact made_runChecked rfl
  | createRepository => exact made_created (P := PushesNothing) rfl _ _
  | clusterStatus => exact made_clusterStatus rfl
  | createCluster policy label name privateNodes channel =>
    cases privateNodes <;> cases channel <;> exact made_created (P := PushesNothing) rfl _ _
  | credentials => exact made_runChecked rfl
  | applyPath => exact made_runChecked rfl
  | createNamespace => exact made_created (P := PushesNothing) rfl _ _
  | applyDocument => exact made_runChecked rfl
  | configureDocker | build | push => exact absurd rfl hid

theorem unpushed_of_look (h : Look ε α a) : unpushed.Obeys a := by
  cases h with
  | get => exact unpushed_of_asks (made_runChecked rfl)

end Unpushed

/-! ### The stage that publishes -/

section Images

variable {c : Configuration} {s : ImageSettings}

/-- A command that has to succeed is one call, whether it succeeds or not. -/
theorem ensures_pushes (command : Command) (word : ProcessError → Failure) :
    (Attempt.mapFailure word do let _ ← runChecked command).Ensures
      (fun _ calls => pushedOf calls = command.pushed?.toList)
      fun _ calls => pushedOf calls = command.pushed?.toList := by
  have hone (answer : Answer) : pushedOf [(command, answer)] = command.pushed?.toList := by
    rw [pushedOf, List.filterMap_cons, List.filterMap_nil]
    cases command.pushed? <;> rfl
  refine ((ensures_runChecked command).read fun _ => ()).mapFailure word |>.mono ?_ ?_
  · rintro _ calls ⟨o, -, rfl, -⟩
    exact hone _
  · rintro _ calls ⟨e, -, answer, rfl, -⟩
    exact hone _

theorem pushed?_buildCommand (image dockerfile context : String) (platform : Option String) :
    (Docker.buildCommand image dockerfile context platform).pushed? = none := by
  cases platform <;> rfl

/-- An image is pushed once, unless its build fails. -/
theorem ensures_publish (total number : Nat) (image : ImageSpec) (o : Outcome) :
    (Images.publish c s total number image o).Ensures
      (fun _ calls => pushedOf calls = [c.imageRef image.name])
      fun _ calls => pushedOf calls <+: [c.imageRef image.name] := by
  refine .after_display (Ensures.bind (ensures_pushes _ _) (fun _ built hbuilt => ?_)
    fun e calls h => ?_)
  · rw [pushed?_buildCommand] at hbuilt
    refine .after_display (Ensures.bind (ensures_pushes _ _) (fun _ pushed hpushed => ?_)
      fun e calls h => ?_)
    · refine .after_display ((ensures_pure _).mono ?_ nofun)
      rintro _ calls ⟨-, rfl⟩
      rw [List.append_nil, pushedOf_append, hbuilt, hpushed]
      rfl
    · rw [pushedOf_append, hbuilt, h]
      exact List.prefix_refl _
  · rw [pushed?_buildCommand] at h
    rw [h]
    exact List.nil_prefix

/-- **The references of the images are pushed in their order**, all of them or those before the
failure. -/
theorem ensures_publishAll (total number : Nat) (images : List ImageSpec) (o : Outcome) :
    (Images.publishAll c s total number images o).Ensures
      (fun _ calls => pushedOf calls = c.imageRefs images)
      fun _ calls => pushedOf calls <+: c.imageRefs images := by
  induction images generalizing number o with
  | nil => exact (ensures_pure o).mono (fun _ _ h => h.2 ▸ rfl) nofun
  | cons image rest ih =>
    refine Ensures.bind (ensures_publish total number image o) (fun o' before hbefore => ?_)
      fun e calls h => ?_
    · refine (ih (number + 1) o').mono (fun _ after hafter => ?_) fun _ after hafter => ?_
      · rw [pushedOf_append, hbefore, hafter]
        rfl
      · rw [pushedOf_append, hbefore]
        exact (List.prefix_append_right_inj [c.imageRef image.name]).mpr hafter
    · exact h.trans (List.prefix_append [c.imageRef image.name] _)

theorem ensures_buildAndPush :
    (Images.buildAndPush c s).Ensures
      (fun _ calls => pushedOf calls = c.imageRefs s.workloads)
      fun _ calls => pushedOf calls <+: c.imageRefs s.workloads := by
  refine .after_display (Ensures.bind (ensures_pushes _ _) (fun _ before hbefore => ?_)
    fun e calls h => ?_)
  · have hnone : pushedOf before = [] := hbefore
    refine (ensures_publishAll _ _ _ _).mono (fun _ after hafter => ?_) fun _ after hafter => ?_
    · rw [pushedOf_append, hnone, hafter, List.nil_append]
    · rw [pushedOf_append, hnone, List.nil_append]
      exact hafter
  · have hnone : pushedOf calls = [] := h
    rw [hnone]
    exact List.nil_prefix

end Images

/-! ### Visits -/

section Visits

variable {files : Files} {settings : Settings} {env : Environment} {runner : Runner} {v : Visit}

theorem pushedOf_deeds_of_ne (hid : v.stage.id ≠ .images) :
    pushedOf (callsOf (v.deeds (pipeline files settings env) runner)) = [] := by
  have hdeeds : v.deeds (pipeline files settings env) runner =
      (actions files settings env v.stage v.ctx).events runner v.begun := rfl
  rw [hdeeds]
  rcases actions_cases files settings env v.stage v.ctx with h | ⟨a, ha, h⟩
  · rw [h]
    unfold Stages.validate
    split <;> rfl
  · have hobeys : unpushed.Obeys a :=
      Discipline.obeys_of_made (fun hstep => unpushed_of_step hstep hid) ha
    rw [h, events_plain]
    exact (hobeys runner v.begun).1

/-- **What is pushed to publish the images** are references to them, in their order, if there is a
configuration to make references from. -/
theorem pushedOf_deeds_of_images (hid : v.stage.id = .images) :
    pushedOf (callsOf (v.deeds (pipeline files settings env) runner)) = [] ∨
      ∃ c, v.ctx.configuration = some c ∧
        pushedOf (callsOf (v.deeds (pipeline files settings env) runner)) <+:
          c.imageRefs settings.images.workloads := by
  have hdeeds : v.deeds (pipeline files settings env) runner =
      (configured v.ctx fun c => Images.buildAndPush c settings.images).events runner v.begun := by
    simp only [Visit.deeds, pipeline, actions, hid]
  rw [hdeeds, configured, events_plain]
  cases hc : v.ctx.configuration with
  | none =>
    have hrequire : v.ctx.require = .error Context.missingConfiguration := by
      rw [Context.require, hc]
    rw [events_bind_of_error (by rw [result_ofExcept, hrequire])]
    exact .inl rfl
  | some c =>
    have hrequire : v.ctx.require = .ok c := by rw [Context.require, hc]
    refine .inr ⟨c, rfl, ?_⟩
    rw [events_bind_of_ok (by rw [result_ofExcept, hrequire]), events_ofExcept, List.append_nil,
      List.nil_append]
    have hcontract := ensures_buildAndPush (c := c) (s := settings.images) runner v.begun
    split at hcontract
    · exact hcontract ▸ List.prefix_refl _
    · exact hcontract

theorem pushedOf_waits : pushedOf (callsOf (v.waits (pipeline files settings env) runner)) = [] := by
  unfold Visit.waits
  split
  · rename_i o _
    have hobeys : unpushed.Obeys
        (Pipeline.await (pipeline files settings env).waiter v.stage.readiness o) :=
      Discipline.obeys_of_made unpushed_of_look (made_await (made_ofCluster _) _ _)
    exact (hobeys runner _).1
  · rfl

/-- All that is pushed for a stage is pushed by its work. -/
theorem pushedOf_events (h : v.Invoked) :
    pushedOf (callsOf (v.events (pipeline files settings env) runner)) =
      pushedOf (callsOf (v.deeds (pipeline files settings env) runner)) := by
  rw [Visit.events_of_invoked h, ← List.singleton_append, callsOf_append, callsOf_append,
    pushedOf_append, pushedOf_append, pushedOf_waits, List.append_nil]
  rfl

/-- **No reference is pushed twice for a stage, and none for most stages.** -/
theorem nodup_pushedOf_events (hnames : (settings.images.workloads.map ImageSpec.name).Nodup) :
    (pushedOf (callsOf (v.events (pipeline files settings env) runner))).Nodup ∧
      (v.stage.id ≠ .images →
        pushedOf (callsOf (v.events (pipeline files settings env) runner)) = []) := by
  by_cases hinvoked : v.Invoked
  · rw [pushedOf_events hinvoked]
    refine ⟨?_, pushedOf_deeds_of_ne⟩
    by_cases hid : v.stage.id = .images
    · rcases pushedOf_deeds_of_images hid with hnone | ⟨c, -, hprefix⟩
      · rw [hnone]
        exact List.nodup_nil
      · exact (c.nodup_imageRefs hnames).sublist hprefix.sublist
    · rw [pushedOf_deeds_of_ne hid]
      exact List.nodup_nil
  · rw [Visit.events_of_not_invoked hinvoked]
    exact ⟨List.nodup_nil, fun _ => rfl⟩

end Visits

/-! ### Runs -/

open Pipeline

theorem pushedOf_historyOf (p : Pipeline) (runner : Runner) (total : Nat) (visits : List Visit) :
    pushedOf (callsOf (p.historyOf runner total visits)) =
      visits.flatMap fun v => pushedOf (callsOf (v.events p runner)) := by
  induction visits with
  | nil => rfl
  | cons v rest ih =>
    have hannounced : callsOf (v.history p runner total) = callsOf (v.events p runner) := rfl
    rw [historyOf, List.flatMap_cons, callsOf_append, hannounced, pushedOf_append,
      List.flatMap_cons]
    exact congrArg _ ih

/-- A run of a plan comes to no stage twice. -/
theorem nodup_id_visits (p : Pipeline) (goal : Goal) (settings : Settings) (runner : Runner)
    (past : List Event) :
    ((p.visits (.ofGoal goal (catalog settings)) runner past).map fun v => v.stage.id).Nodup := by
  have hcatalog : ((catalog settings).map Stage.id).Nodup :=
    map_id_catalog settings ▸ StageId.nodup_all
  have hplan : ((Plan.ofGoal goal (catalog settings)).stages.map Stage.id).Nodup :=
    hcatalog.sublist (List.filter_sublist.map Stage.id)
  have hvisits := p.stage_visits_prefix (.ofGoal goal (catalog settings)) runner past
  have hids := hplan.sublist (hvisits.sublist.map Stage.id)
  rwa [List.map_map] at hids

/-- **Where the names of the images differ, no reference is pushed twice in a run.** -/
theorem nodup_pushedOf_run (files : Files) {settings : Settings} (env : Environment) (goal : Goal)
    (r : Report) (runner : Runner) (past : List Event)
    (hnames : (settings.images.workloads.map ImageSpec.name).Nodup) :
    (pushedOf (callsOf (((pipeline files settings env).run (.ofGoal goal (catalog settings))
      r).events runner past))).Nodup := by
  rw [callsOf_run, pushedOf_historyOf]
  refine List.pairwise_flatMap.mpr ⟨fun v _ => (nodup_pushedOf_events hnames).1, ?_⟩
  -- of two visits one is not to the images, and there nothing is pushed
  refine (List.pairwise_map.mp (nodup_id_visits _ goal settings runner past)).imp ?_
  intro v w hne image hv image' hw
  by_cases hid : v.stage.id = .images
  · rw [(nodup_pushedOf_events hnames).2 (fun h => hne (hid.trans h.symm))] at hw
    cases hw
  · rw [(nodup_pushedOf_events hnames).2 hid] at hv
    cases hv

end Rollout
