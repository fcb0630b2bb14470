import Rollout.Proofs.AgentManifest
import Rollout.Proofs.ClusterProtocol
import Rollout.Proofs.Warnings

/-!
# Which duplicates are recognised

Three stages create something: a repository of images, a cluster, a namespace. When the command fails
with an exit number, everything depends on what its error text says. This file tells how, text by
text. A duplicate is recognised where one of three spellings occurs in the text
(`Rollout.Policy.Spelled`): then the stage warns once and goes on with what it would have done next.
Any other text is fatal. These are the two constructors of `Rollout.Reaction`, and
`Rollout.duplicates_spelled` is the main statement.

The spellings are matched letter by letter. A text that says "already exists" in other letters, as
at the beginning of a sentence, is not recognised, whereas "not found" is recognised in any
(`Rollout.Text.SaidIn`). So a deployment that loses the race for its cluster can fail for it, which
is `Rollout.unrecognised_duplicate`.
-/

namespace Rollout

/-! ### Texts that say nothing else -/

namespace Policy

variable {stderr : String}

/-- A text that says nothing but "already exists" is recognised in lower case only. -/
theorem spelled_iff_of_alone (h : stderr.toList.map Char.toLower = "already exists".toList) :
    Spelled stderr ↔ stderr = "already exists" := by
  -- in lower case, the text would have to hold a marker in lower case
  have hlower {marker : String} {front behind : List Char}
      (hoccurs : stderr.toList = front ++ marker.toList ++ behind) :
      Text.occursIn (marker.toList.map Char.toLower) "already exists".toList = true := by
    refine (Text.occursIn_iff ..).mpr ⟨front.map Char.toLower, behind.map Char.toLower, ?_⟩
    rw [← h, hoccurs, List.map_append, List.map_append]
  constructor
  · rintro ⟨marker, hmarker, front, behind, hoccurs⟩
    simp only [List.mem_cons, List.not_mem_nil, or_false] at hmarker
    rcases hmarker with rfl | rfl | rfl
    · have hlength := congrArg List.length hoccurs
      have hsame := congrArg List.length h
      simp only [List.length_map, List.length_append] at hlength hsame
      obtain rfl : front = [] := List.eq_nil_of_length_eq_zero (by omega)
      obtain rfl : behind = [] := List.eq_nil_of_length_eq_zero (by omega)
      rw [List.nil_append, List.append_nil] at hoccurs
      exact String.toList_inj.mp hoccurs
    · exact absurd (hlower hoccurs) (by decide)
    · exact absurd (hlower hoccurs) (by decide)
  · rintro rfl
    exact ⟨_, List.mem_cons_self, [], [], rfl⟩

end Policy

/-! ### Reactions -/

/-- What is created by a command, with the code of the failure to create it and the warning that it
was there. -/
structure Creator where
  command : Command
  code : UInt16
  warning : String

/-- **What comes of a creation that failed with an exit number**, given the error text, what happened
before and behind it in the stage, and how the stage ended. What it means for the stage to go on is
a parameter. -/
inductive Reaction (k : Creator) (GoesOn : List Event → Except Failure Outcome → Prop)
    (stderr : String) : List Event → List Event → Except Failure Outcome → Prop
  /-- The stage warns of a duplicate, of nothing else, and goes on. -/
  | absorbed {before rest : List Event} {result : Except Failure Outcome}
      (h : Policy.Spelled stderr) (hbefore : warningsOf before = []) (hrest : warningsOf rest = [])
      (hgoesOn : GoesOn rest result) :
      Reaction k GoesOn stderr before (.shown (.warning k.warning) :: rest) result
  /-- The stage does nothing more, and fails. -/
  | fatal {before : List Event} {f : Failure} (h : ¬Policy.Spelled stderr)
      (hbefore : warningsOf before = []) (hcode : f.code = k.code) :
      Reaction k GoesOn stderr before [] (.error f)

/-- **Wherever the creation fails in a stage, it is reacted to.** -/
def Reacts (k : Creator) (GoesOn : List Event → Except Failure Outcome → Prop)
    (a : Attempt Failure Outcome) : Prop :=
  ∀ runner past before o n after,
    a.events runner past = before ++ .ran k.command (.ok o) :: after → o.status = .error n →
      Reaction k GoesOn o.stderr before after (a.result runner past)

/-- A stage that ends when its creation has. -/
def Ended (rest : List Event) (result : Except Failure Outcome) : Prop :=
  rest = [] ∧ ∃ o, result = .ok o

namespace Attempt

variable {ε ε' α β : Type} {command : Command}

/-- **An attempt that keeps clear of a command**: it does not run it, and it warns of nothing. -/
structure Clear (command : Command) (a : Attempt ε α) : Prop where
  quiet : a.Quiet
  other : ∀ runner past, command ∉ commandsOf (a.events runner past)

theorem Clear.bind {a : Attempt ε α} {f : α → Attempt ε β} (ha : a.Clear command)
    (hf : ∀ x, (f x).Clear command) : (a >>= f).Clear command := by
  refine ⟨ha.quiet.bind fun x => (hf x).quiet, fun runner past => ?_⟩
  cases hr : a.result runner past with
  | error e =>
    rw [events_bind_of_error hr]
    exact ha.other runner past
  | ok x =>
    rw [events_bind_of_ok hr, commandsOf_append]
    exact fun h => (List.mem_append.mp h).elim (ha.other runner past) ((hf x).other runner _)

theorem Clear.mapFailure {a : Attempt ε α} (ha : a.Clear command) (word : ε → ε') :
    (Attempt.mapFailure word a).Clear command := by
  refine ⟨ha.quiet.mapFailure word, fun runner past => ?_⟩
  rw [events_mapFailure]
  exact ha.other runner past

theorem clear_ofExcept (r : Except ε α) : (ofExcept r).Clear command :=
  ⟨quiet_ofExcept r, fun _ _ => nofun⟩

theorem clear_pure (x : α) : (pure x : Attempt ε α).Clear command := clear_ofExcept (.ok x)

theorem clear_info (text : String) : (display (.info text) : Attempt ε Unit).Clear command :=
  ⟨quiet_info text, fun _ _ => nofun⟩

theorem clear_success (text : String) : (display (.success text) : Attempt ε Unit).Clear command :=
  ⟨quiet_success text, fun _ _ => nofun⟩

/-- Another command. -/
theorem clear_run {c : Command} (h : command ≠ c) : (run c).Clear command :=
  ⟨quiet_run c, fun _ _ hmem => h (List.mem_singleton.mp hmem)⟩

/-- Another command that has to succeed. -/
theorem clear_read {c : Command} (h : command ≠ c) (word : ProcessError → ε) (read : Output → α) :
    (mapFailure word do return read (← runChecked c)).Clear command :=
  (((clear_run h).bind fun _ => clear_ofExcept _).bind fun _ => clear_pure _).mapFailure word

/-- An attempt that begins with a command. -/
def Leads (command : Command) (a : Attempt ε α) : Prop :=
  ∀ runner past, (commandsOf (a.events runner past)).head? = some command

theorem leads_read (c : Command) (word : ProcessError → ε) (read : Output → α) :
    (mapFailure word do return read (← runChecked c)).Leads c := by
  intro runner past
  have hevents : (do return read (← runChecked c)).events runner past =
      [.ran c (runner (commandsOf past) c)] :=
    (events_judge (runChecked c) fun o => .ok (read o)).trans (events_runChecked c)
  rw [events_mapFailure, hevents]
  rfl

theorem Leads.bind {a : Attempt ε α} (ha : a.Leads command) (f : α → Attempt ε β) :
    (a >>= f).Leads command := by
  intro runner past
  cases hr : a.result runner past with
  | error e =>
    rw [events_bind_of_error hr]
    exact ha runner past
  | ok x =>
    rw [events_bind_of_ok hr, commandsOf_append, List.head?_append, ha runner past]
    rfl

theorem Leads.behind_display {l : Line} {f : Unit → Attempt ε α} (hf : (f ()).Leads command) :
    (display l >>= f).Leads command := by
  intro runner past
  rw [events_bind_of_ok (result_display l), commandsOf_append]
  exact hf runner _

end Attempt

section Rules

open Attempt

variable {k : Creator} {GoesOn : List Event → Except Failure Outcome → Prop} {α : Type}
  {front rest before after : List Event} {command : Command} {answer : Answer}

/-- What was run is a command of the history. -/
theorem mem_commandsOf_of_split (h : front = before ++ .ran command answer :: after) :
    command ∈ commandsOf front := by
  rw [h, commandsOf_append]
  exact List.mem_append_right _ List.mem_cons_self

/-- A command that is not run in front is run behind. -/
theorem split_behind (hfront : command ∉ commandsOf front)
    (h : front ++ rest = before ++ .ran command answer :: after) :
    ∃ before', before = front ++ before' ∧ rest = before' ++ .ran command answer :: after := by
  rcases List.append_eq_append_iff.mp h with ⟨before', hbefore, hrest⟩ | ⟨tail, hfront', htail⟩
  · exact ⟨before', hbefore, hrest⟩
  · cases tail with
    | nil =>
      rw [List.append_nil] at hfront'
      exact ⟨[], by rw [hfront', List.append_nil], htail.symm⟩
    | cons e tail =>
      obtain ⟨rfl, -⟩ := List.cons.inj htail
      exact absurd (mem_commandsOf_of_split hfront') hfront

/-- A command that is not run behind is run in front. -/
theorem split_front (hrest : command ∉ commandsOf rest)
    (h : front ++ rest = before ++ .ran command answer :: after) :
    ∃ after', after = after' ++ rest ∧ front = before ++ .ran command answer :: after' := by
  rcases List.append_eq_append_iff.mp h with ⟨before', -, hrest'⟩ | ⟨tail, hfront, htail⟩
  · exact absurd (mem_commandsOf_of_split hrest') hrest
  · cases tail with
    | nil =>
      have hall : rest = [] ++ .ran command answer :: after := htail.symm
      exact absurd (mem_commandsOf_of_split hall) hrest
    | cons e tail =>
      obtain ⟨rfl, hafter⟩ := List.cons.inj htail
      exact ⟨tail, hafter, hfront⟩

/-- The one call of a history is the one that is found in it. -/
theorem split_single {answer' : Answer} (hrest : commandsOf rest = [])
    (h : [.ran command answer'] ++ rest = before ++ .ran command answer :: after) :
    before = [] ∧ answer' = answer ∧ after = rest := by
  obtain ⟨after', rfl, hone⟩ := split_front (by rw [hrest]; exact nofun) h
  rcases List.append_eq_singleton_iff.mp hone.symm with ⟨rfl, hcall⟩ | ⟨-, hnil⟩
  · obtain ⟨hsame, rfl⟩ := List.cons.inj hcall
    exact ⟨rfl, (Event.ran.inj hsame).2.symm, rfl⟩
  · cases hnil

theorem Reaction.behind {stderr : String} {result : Except Failure Outcome}
    (h : Reaction k GoesOn stderr before after result) (hfront : warningsOf front = []) :
    Reaction k GoesOn stderr (front ++ before) after result := by
  have hwarnings (hbefore : warningsOf before = []) : warningsOf (front ++ before) = [] := by
    rw [warningsOf_append, hfront, hbefore, List.append_nil]
  cases h with
  | absorbed h hbefore hrest hgoesOn => exact .absorbed h (hwarnings hbefore) hrest hgoesOn
  | fatal h hbefore hcode => exact .fatal h (hwarnings hbefore) hcode

/-- What keeps clear of the creation has nothing to react to. -/
theorem Attempt.Clear.reacts {a : Attempt Failure Outcome} (h : a.Clear k.command) :
    Reacts k GoesOn a :=
  fun runner past _ _ _ _ hevents _ =>
    absurd (mem_commandsOf_of_split hevents) (h.other runner past)

/-- A reaction behind what keeps clear of the creation. -/
theorem Reacts.behind {a : Attempt Failure α} {f : α → Attempt Failure Outcome}
    (ha : a.Clear k.command) (hf : ∀ x, Reacts k GoesOn (f x)) : Reacts k GoesOn (a >>= f) := by
  intro runner past before o n after hevents hstatus
  cases hr : a.result runner past with
  | error e =>
    rw [events_bind_of_error hr] at hevents
    exact absurd (mem_commandsOf_of_split hevents) (ha.other runner past)
  | ok x =>
    rw [events_bind_of_ok hr] at hevents
    obtain ⟨before', rfl, hrest⟩ := split_behind (ha.other runner past) hevents
    rw [result_bind_of_ok hr]
    exact (hf x runner _ before' o n after hrest hstatus).behind (ha.quiet runner past)

/-- **What goes on behind a creation** is what comes behind it in the stage. -/
theorem Reacts.goesOn {a : Attempt Failure Outcome} {f : Outcome → Attempt Failure Outcome}
    (ha : Reacts k Ended a) (hf : ∀ o, (f o).Clear k.command)
    (hgoesOn : ∀ o runner past, GoesOn ((f o).events runner past) ((f o).result runner past)) :
    Reacts k GoesOn (a >>= f) := by
  intro runner past before o n after hevents hstatus
  cases hr : a.result runner past with
  | error e =>
    rw [events_bind_of_error hr] at hevents
    have hreaction := ha runner past before o n after hevents hstatus
    rw [hr] at hreaction
    rw [result_bind_of_error hr]
    cases hreaction with
    | absorbed _ _ _ hended => exact absurd hended.2 nofun
    | fatal h hbefore hcode => exact .fatal h hbefore hcode
  | ok o' =>
    rw [events_bind_of_ok hr] at hevents
    obtain ⟨after', rfl, hfront⟩ := split_front ((hf o').other runner _) hevents
    have hreaction := ha runner past before o n after' hfront hstatus
    rw [hr] at hreaction
    rw [result_bind_of_ok hr]
    cases hreaction with
    | absorbed h hbefore _ hended =>
      obtain ⟨rfl, -⟩ := hended
      exact .absorbed h hbefore ((hf o').quiet runner _) (hgoesOn o' runner _)

/-- **A creation itself.** Duplicates are absorbed; what is told of the creation is one line. -/
theorem reacts_creation {word : ProcessError → Failure} (hword : ∀ e, (word e).code = k.code)
    {label : String} {f : Creation → Attempt Failure Outcome} {l : Line} {o : Outcome}
    (hcreated : f .created = do display l; return o)
    (hexisted : f .alreadyExisted = o.warn k.warning) :
    Reacts k Ended (mapFailure word
      (Stages.Provisioning.created .treatDuplicateAsSuccess label (run k.command)) >>= f) := by
  intro runner past before out n after hevents hstatus
  have hrun := Stages.Provisioning.events_created k.command .treatDuplicateAsSuccess label word runner
    past
  have hresult := Stages.Provisioning.result_created k.command .treatDuplicateAsSuccess label word
    runner past
  -- the one call of the attempt is the one that failed, for no command is run to tell of it
  cases hr : (mapFailure word (Stages.Provisioning.created .treatDuplicateAsSuccess label
      (run k.command))).result runner past with
  | error failure =>
    rw [events_bind_of_error hr, hrun] at hevents
    rw [hr] at hresult
    obtain ⟨rfl, hanswer, rfl⟩ := split_single rfl hevents
    obtain ⟨⟨e, rfl⟩, hno⟩ := hresult
    rw [hanswer] at hno
    rw [result_bind_of_error hr]
    exact .fatal (fun hspelled => hno _
      (.absorbed rfl hstatus hspelled)) rfl (hword e)
  | ok creation =>
    rw [events_bind_of_ok hr, hrun] at hevents
    rw [hr] at hresult
    have hsilent (past : List Event) : commandsOf ((f creation).events runner past) = [] := by
      cases creation with
      | created =>
        rw [hcreated]
        rfl
      | alreadyExisted =>
        rw [hexisted]
        rfl
    obtain ⟨rfl, hanswer, rfl⟩ := split_single (hsilent _) hevents
    rw [hanswer] at hresult
    rw [result_bind_of_ok hr]
    cases hresult with
    | created h =>
      rw [h] at hstatus
      cases hstatus
    | absorbed _ _ hdup =>
      rw [hexisted]
      exact .absorbed hdup rfl rfl ⟨rfl, _, rfl⟩

end Rules

open Tools Stages Attempt

/-! ### The stages that create something -/

section Stages

variable (c : Configuration) (s : ClusterSettings) (t : AgentSettings)

/-- The repository of images. -/
def repositoryCreator : Creator where
  command := Gcloud.repositoryCreation c.projectId c.region c.repository
  code := 3003
  warning := "Artifact repository " ++ c.repository ++ " already exists, reusing it"

/-- The cluster. -/
def clusterCreator : Creator where
  command := Provisioning.creationCommand c s
  code := 3004
  warning := Provisioning.duplicateWarning c

/-- The namespace of the agents. -/
def namespaceCreator : Creator where
  command := Manifests.namespaceCommand t.space
  code := 7003
  warning := "Namespace " ++ t.space ++ " already exists"

/-- A stage that goes on with a command. -/
def NextRuns (P : Command → Prop) (rest : List Event) (_ : Except Failure Outcome) : Prop :=
  ∃ command, (commandsOf rest).head? = some command ∧ P command

/-- What is created is not what is first asked for. -/
theorem repositoryCreation_ne {command : Command} (first : String)
    (h : command.args.head? = some first) (hne : first ≠ "artifacts") :
    (repositoryCreator c).command ≠ command := by
  rintro rfl
  exact hne (Option.some.inj h).symm

theorem reacts_project (apis : List String) :
    Reacts (repositoryCreator c) Ended (Provisioning.project c apis .treatDuplicateAsSuccess) := by
  have hselect : (Provisioning.selectProject c.projectId).Clear (repositoryCreator c).command :=
    (clear_info _).bind fun _ =>
      clear_read (repositoryCreation_ne c "config" rfl (by decide)) _ _
  have henable : (Provisioning.enableServices c.projectId apis).Clear
      (repositoryCreator c).command := by
    unfold Provisioning.enableServices
    split
    · exact clear_pure ()
    · exact (clear_info _).bind fun _ =>
        clear_read (repositoryCreation_ne c "services" rfl (by decide)) _ _
  have hcreate : Reacts (repositoryCreator c) Ended
      (Provisioning.createRepository c .treatDuplicateAsSuccess .silent) := by
    rw [Provisioning.createRepository, Gcloud.createRepository, Gcloud.createRepositoryCommand_eq]
    exact .behind (clear_info _) fun _ => reacts_creation (fun _ => rfl) rfl rfl
  refine .behind hselect fun _ => .behind henable fun _ => hcreate.goesOn (fun o => clear_pure _) ?_
  exact fun o runner past => ⟨rfl, _, rfl⟩

theorem reacts_cluster : Reacts (clusterCreator c s)
    (NextRuns fun command => command = Provisioning.grantCommand c)
    (Provisioning.cluster c s .treatDuplicateAsSuccess) := by
  -- the query and the request for credentials keep clear of the creation, for they are other commands
  have hnodup := Provisioning.nodup_commands c s
  simp only [List.nodup_cons, List.mem_cons, List.not_mem_nil, or_false, not_or] at hnodup
  obtain ⟨⟨hquery, -⟩, hgrant, -⟩ := hnodup
  have hstatus : (Gcloud.clusterStatus (Provisioning.clusterName c)).Clear
      (clusterCreator c s).command := by
    rw [Gcloud.clusterStatus, Provisioning.describeClusterCommand_clusterName]
    refine (clear_run (Ne.symm hquery)).bind fun o => ?_
    split
    · exact clear_pure _
    · split
      · exact clear_pure _
      · exact (clear_ofExcept _).bind fun _ => clear_pure _
  have hensure : Reacts (clusterCreator c s) Ended
      (Provisioning.ensureCluster c s .treatDuplicateAsSuccess) := by
    refine .behind (hstatus.mapFailure _) fun status => ?_
    cases status with
    | some status =>
      dsimp only
      split
      · exact ((clear_info _).bind fun _ => clear_pure _).reacts
      · exact (clear_ofExcept _).reacts
    | none =>
      dsimp only
      rw [Provisioning.createCluster, Gcloud.createCluster,
        Provisioning.createClusterCommand_clusterName]
      exact .behind (clear_info _) fun _ => reacts_creation (fun _ => rfl) rfl rfl
  refine hensure.goesOn (fun o => ?_) fun o runner past => ?_
  · exact (clear_read hgrant _ _).bind fun _ => (clear_success _).bind fun _ => clear_pure _
  · exact ⟨_, ((leads_read _ _ _).bind _) runner past, rfl⟩

theorem reacts_deployAgents (files : Files) : Reacts (namespaceCreator t)
    (NextRuns fun command => ∃ document, command = Manifests.manifestCommand document)
    (Manifests.deployAgents files c t .treatDuplicateAsSuccess) := by
  refine .behind (clear_ofExcept _) fun rendered => ?_
  obtain ⟨name, document⟩ := rendered
  have happly : (namespaceCreator t).command ≠ Kubectl.applyDocumentCommand document :=
    Ne.symm (Manifests.manifestCommand_ne document t.space)
  have hensure : Reacts (namespaceCreator t) Ended
      (Manifests.ensureNamespace t.space .treatDuplicateAsSuccess .silent) :=
    reacts_creation (fun _ => rfl) rfl rfl
  refine hensure.goesOn (fun o => ?_) fun o runner past => ?_
  · exact (clear_info _).bind fun _ => (clear_read happly _ _).bind fun _ =>
      (clear_success _).bind fun _ => clear_pure _
  · exact ⟨_, Leads.behind_display ((leads_read _ _ _).bind _) runner past, document, rfl⟩

/-! ### All creations -/

/-- **A stage recognises its duplicates as they are spelled**: it reacts to the failure of its
creation, and what it warns of is kept in its outcome. -/
structure Recognises (k : Creator) (GoesOn : List Event → Except Failure Outcome → Prop)
    (a : Attempt Failure Outcome) : Prop where
  reacts : Reacts k GoesOn a
  reports : a.Reports .silent

/-- **Duplicates are recognised by three spellings**, in each of the stages that create something,
whatever answers the commands and whatever has happened before: behind a duplicate that is spelled,
the project is done, the credentials for the cluster are fetched, and the agents are applied. Of
texts that say nothing but "already exists" only one is recognised, whereas a text may say "not
found" in any case. -/
theorem duplicates_spelled (files : Files) (apis : List String) :
    Recognises (repositoryCreator c) Ended (Provisioning.project c apis .treatDuplicateAsSuccess) ∧
    Recognises (clusterCreator c s) (NextRuns fun command => command = Provisioning.grantCommand c)
      (Provisioning.cluster c s .treatDuplicateAsSuccess) ∧
    Recognises (namespaceCreator t)
      (NextRuns fun command => ∃ document, command = Manifests.manifestCommand document)
      (Manifests.deployAgents files c t .treatDuplicateAsSuccess) ∧
    (∀ stderr, stderr.toList.map Char.toLower = "already exists".toList →
      (Policy.Spelled stderr ↔ stderr = "already exists")) ∧
    ∀ stderr, Text.SaidIn "not found" stderr → Gcloud.saysNotFound stderr = true := by
  refine ⟨⟨reacts_project c apis, reports_project c apis _⟩,
    ⟨reacts_cluster c s, reports_cluster c s _⟩,
    ⟨reacts_deployAgents c t files, reports_deployAgents files c t _⟩,
    fun _ => Policy.spelled_iff_of_alone, fun stderr hsaid => ?_⟩
  exact Gcloud.saysNotFound_iff.mpr (.inr hsaid)

end Stages

/-! ### A duplicate that is not recognised -/

/-- What the cloud says to the loser of a race for a cluster. -/
def conflictText : String := "ERROR: code=409, message=Already exists: projects/demo"

/-- A host where the cluster is there when it is to be created, but was not when it was asked for. -/
def conflictHost : Runner := fun _ c =>
  if c.args.contains "describe" then .ok ⟨.error 1, "", "Not found", .zero⟩
  else if c.args.contains "create-auto" then .ok ⟨.error 1, "", conflictText, .zero⟩
  else .ok ⟨.success, "operator", "", .zero⟩

/-- A run for the cluster on that host. -/
def conflictRun : (Report × Except Failure Unit) × List Event :=
  plainPipeline.run (.ofGoal .cluster (catalog .builtIn)) (.begin "cluster" (.afterEpoch .zero))
    conflictHost []

/-- **A duplicate that is fatal.** The cloud says that the cluster already exists, and not in lower
case; the run does not warn of it, does not go on with the credentials, and fails. -/
theorem unrecognised_duplicate :
    Text.SaidIn "already exists" conflictText ∧ ¬Policy.Spelled conflictText ∧
      ∃ f command, conflictRun.1.2 = .error f ∧ f.code = 3004 ∧ warningsOf conflictRun.2 = [] ∧
        (commandsOf conflictRun.2).getLast? = some command ∧
        command.args.contains "create-auto" = true := by
  have hsaid : Text.SaidIn "already exists" conflictText :=
    ⟨"ERROR: code=409, message=".toList, "Already exists".toList, ": projects/demo".toList,
      by decide +kernel, by decide⟩
  have hspelled : ¬Policy.Spelled conflictText := by
    rw [← Policy.saysDuplicate_iff]
    decide +kernel
  have hend : (match conflictRun.1.2 with
      | .ok _ => none
      | .error f => some f.code, warningsOf conflictRun.2,
      (commandsOf conflictRun.2).getLast?.map fun c => c.args.contains "create-auto") =
        (some 3004, [], some true) := by decide +kernel
  obtain ⟨hcode, hrest⟩ := Prod.mk.inj hend
  obtain ⟨hwarnings, hlast⟩ := Prod.mk.inj hrest
  obtain ⟨command, hcommand, hargs⟩ := Option.map_eq_some_iff.mp hlast
  split at hcode
  · cases hcode
  · rename_i f hf
    exact ⟨hsaid, hspelled, f, command, hf, Option.some.inj hcode, hwarnings, hcommand, hargs⟩

end Rollout
