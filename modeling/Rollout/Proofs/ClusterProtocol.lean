import Rollout.Proofs.Answered
import Rollout.Proofs.Creation
import Rollout.Proofs.Invocations

/-!
# The protocol of the cluster

A cluster is provided by three commands at most: it is queried, it is created if the query says that
there is none, and the credentials for it are fetched. What a deployment asks the cloud is thus known
from the answers it has had so far, its *trace* (`Rollout.Stages.Provisioning.Trace`), and this file
says which traces there are and how each of them ends.

| query | creation | credentials | end |
|---|---|---|---|
| usable | | granted | success |
| absent | succeeds | granted | success |
| absent | is a duplicate | granted | success, with a warning |
| any of these three | | not granted | 3006 |
| absent | neither | | 3004 |
| another status | | | 3005 |
| anything else | | | 3004 |

The table is `Rollout.Stages.Provisioning.Ends`, and its first three lines are
`Rollout.Stages.Provisioning.Ready`. The main statement,
`Rollout.Stages.Provisioning.protocol_cluster`, holds where the policy absorbs duplicates, for every
configuration and whatever answers the commands.
-/

namespace Rollout.Stages.Provisioning

open Attempt Tools

/-! ### Answers -/

/-- The command succeeded. -/
def Succeeded (answer : Answer) : Prop := ∃ o, answer = .ok o ∧ o.status = .success

/-- A query that succeeded, with a status of the cluster. -/
def HasStatus (status : String) (answer : Answer) : Prop :=
  ∃ o, answer = .ok o ∧ o.status = .success ∧ Text.trim o.stdout = status

/-- **The cluster is usable**: a query says that it runs, or is about to. -/
def Usable (answer : Answer) : Prop := HasStatus "RUNNING" answer ∨ HasStatus "RECONCILING" answer

/-- **The cluster is absent**: a query ran, and failed with a text that says so. -/
def Absent (answer : Answer) : Prop :=
  ∃ o, answer = .ok o ∧ o.status ≠ .success ∧ Gcloud.TellsAbsence o.stderr

/-- **The creation is a duplicate**: it ended with an exit number and a text that says so. -/
def Duplicate (answer : Answer) : Prop :=
  ∃ o n, answer = .ok o ∧ o.status = .error n ∧ Policy.Spelled o.stderr

section Answers

variable {answer : Answer} {status : String}

theorem HasStatus.succeeded (h : HasStatus status answer) : Succeeded answer := by
  obtain ⟨o, ho, hs, -⟩ := h
  exact ⟨o, ho, hs⟩

theorem Usable.succeeded (h : Usable answer) : Succeeded answer :=
  h.elim HasStatus.succeeded HasStatus.succeeded

theorem Absent.not_succeeded (h : Absent answer) : ¬Succeeded answer := by
  obtain ⟨o, rfl, hno, -⟩ := h
  rintro ⟨o', ho', hs⟩
  obtain rfl := Except.ok.inj ho'
  exact hno hs

theorem Duplicate.not_succeeded (h : Duplicate answer) : ¬Succeeded answer := by
  obtain ⟨o, n, rfl, hn, -⟩ := h
  rintro ⟨o', ho', hs⟩
  obtain rfl := Except.ok.inj ho'
  rw [hn] at hs
  cases hs

/-- A query tells one status only. -/
theorem HasStatus.unique {status' : String} (h : HasStatus status answer)
    (h' : HasStatus status' answer) : status = status' := by
  obtain ⟨o, rfl, -, rfl⟩ := h
  obtain ⟨o', ho', -, rfl⟩ := h'
  obtain rfl := Except.ok.inj ho'
  rfl

theorem usable_iff_of_status (h : HasStatus status answer) :
    Usable answer ↔ isUsable status = true := by
  have hstatus : isUsable status = true ↔ status = "RUNNING" ∨ status = "RECONCILING" := by
    simp [isUsable]
  rw [hstatus]
  constructor
  · rintro (hother | hother)
    · exact .inl (h.unique hother)
    · exact .inr (h.unique hother)
  · rintro (rfl | rfl)
    · exact .inl h
    · exact .inr h

/-- Duplicates absorbed, a creation is taken for what its answer says. -/
theorem takesFor_iff {creation : Creation} :
    Policy.treatDuplicateAsSuccess.TakesFor answer creation ↔
      creation = .created ∧ Succeeded answer ∨ creation = .alreadyExisted ∧ Duplicate answer := by
  constructor
  · rintro (h | ⟨-, h, hdup⟩)
    · exact .inl ⟨rfl, _, rfl, h⟩
    · exact .inr ⟨rfl, _, _, rfl, h, hdup⟩
  · rintro (⟨rfl, o, rfl, h⟩ | ⟨rfl, o, n, rfl, h, hdup⟩)
    · exact .created h
    · exact .absorbed rfl h hdup

end Answers

/-! ### Traces -/

variable {c : Configuration} {s : ClusterSettings}

/-- The command that queries the cluster. -/
def queryCommand (c : Configuration) : Command :=
  Gcloud.clusterQuery c.projectId c.region c.clusterName

/-- The command that creates it. -/
def creationCommand (c : Configuration) (s : ClusterSettings) : Command :=
  Gcloud.clusterCreation c.projectId c.region c.clusterName s.privateNodes s.releaseChannel

/-- The command that fetches the credentials for it. -/
def grantCommand (c : Configuration) : Command :=
  Gcloud.clusterGrant c.projectId c.region c.clusterName

/-- A command is about a cluster: it names it, its region and its project. -/
def IsAbout (c : Configuration) (command : Command) : Prop :=
  command.program = "gcloud" ∧ ∃ verb options, command.args =
    ["container", "clusters", verb, c.clusterName, "--region=" ++ c.region,
      "--project=" ++ c.projectId] ++ options

theorem describeClusterCommand_clusterName (c : Configuration) :
    Gcloud.describeClusterCommand (clusterName c) = queryCommand c :=
  Gcloud.describeClusterCommand_eq _

theorem createClusterCommand_clusterName (c : Configuration) (s : ClusterSettings) :
    Gcloud.createClusterCommand (clusterName c) s.privateNodes s.releaseChannel =
      creationCommand c s :=
  Gcloud.createClusterCommand_eq ..

theorem credentialsCommand_clusterName (c : Configuration) :
    Gcloud.credentialsCommand (clusterName c) = grantCommand c :=
  Gcloud.credentialsCommand_eq _

/-- The three commands are different, for each has a verb of its own. -/
theorem nodup_commands (c : Configuration) (s : ClusterSettings) :
    [queryCommand c, creationCommand c s, grantCommand c].Nodup := by
  have hdifferent : ([queryCommand c, creationCommand c s, grantCommand c].map
      fun command => command.args[2]?).Nodup := by
    -- the verb, which is the third word, is enough to tell them apart
    change [some "describe", some "create-auto", some "get-credentials"].Nodup
    decide
  have hargs (a b : Command) (h : a.args[2]? ≠ b.args[2]?) : a ≠ b := fun hab => h (by rw [hab])
  exact List.Pairwise.of_map _ hargs hdifferent

/-- All three are about the cluster. -/
theorem isAbout_of_mem (c : Configuration) (s : ClusterSettings) {command : Command}
    (h : command ∈ [queryCommand c, creationCommand c s, grantCommand c]) : IsAbout c command := by
  simp only [List.mem_cons, List.not_mem_nil, or_false] at h
  rcases h with rfl | rfl | rfl
  · exact ⟨rfl, "describe", ["--format=value(status)"], rfl⟩
  · exact ⟨rfl, "create-auto", _, rfl⟩
  · exact ⟨rfl, "get-credentials", [], rfl⟩

/-- **The answers that a deployment has had**: to the query, to the creation if it came to that, and
to the request for credentials if it came to that. -/
structure Trace where
  query : Answer
  creation? : Option Answer
  grant? : Option Answer

/-- The calls with these answers. -/
def Trace.calls (t : Trace) (c : Configuration) (s : ClusterSettings) : List Call :=
  (queryCommand c, t.query) :: (t.creation?.toList.map fun answer => (creationCommand c s, answer)) ++
    t.grant?.toList.map fun answer => (grantCommand c, answer)

/-! ### How traces end -/

/-- A failure to provide the cluster, with a code. -/
def FailsWith (code : UInt16) (result : Except Failure Outcome) : Prop :=
  ∃ f, result = .error f ∧ f.matter.title = "Provisioning" ∧ f.code = code

/-- What the operator is warned of when someone else has created the cluster. -/
def duplicateWarning (c : Configuration) : String :=
  "Cluster " ++ c.clusterName ++ " was created concurrently, reusing it"

/-- **The cluster is there**, given the answers to the query and the creation and the warnings. -/
inductive Ready (c : Configuration) : Answer → Option Answer → List String → Prop
  | found {query : Answer} (h : Usable query) : Ready c query none []
  | created {query creation : Answer} (h : Absent query) (hcreation : Succeeded creation) :
      Ready c query (some creation) []
  | absorbed {query creation : Answer} (h : Absent query) (hcreation : Duplicate creation) :
      Ready c query (some creation) [duplicateWarning c]

/-- **The deployment stops before it asks for credentials**, given the answers to the query and the
creation and the code of the failure. -/
inductive Stops : Answer → Option Answer → UInt16 → Prop
  | unhealthy {query : Answer} (h : Succeeded query) (hno : ¬Usable query) : Stops query none 3005
  | unknown {query : Answer} (h : ¬Succeeded query) (hno : ¬Absent query) : Stops query none 3004
  | refused {query creation : Answer} (h : Absent query) (hno : ¬Succeeded creation)
      (hno' : ¬Duplicate creation) : Stops query (some creation) 3004

/-- **How a trace ends.** -/
inductive Ends (c : Configuration) : Trace → Except Failure Outcome → Prop
  | stopped {query : Answer} {creation? : Option Answer} {code : UInt16}
      {result : Except Failure Outcome} (h : Stops query creation? code)
      (hresult : FailsWith code result) : Ends c ⟨query, creation?, none⟩ result
  | ungranted {query grant : Answer} {creation? : Option Answer} {warnings : List String}
      {result : Except Failure Outcome} (h : Ready c query creation? warnings)
      (hno : ¬Succeeded grant) (hresult : FailsWith 3006 result) :
      Ends c ⟨query, creation?, some grant⟩ result
  | granted {query grant : Answer} {creation? : Option Answer} {o : Outcome}
      (h : Ready c query creation? o.warnings) (hgrant : Succeeded grant) :
      Ends c ⟨query, creation?, some grant⟩ (.ok o)

/-! ### Every deployment has a trace -/

theorem ensures_clusterStatus (c : Configuration) :
    (Gcloud.clusterStatus (clusterName c)).Ensures
      (fun status? calls => ∃ query, calls = [(queryCommand c, query)] ∧
        match status? with
        | some status => HasStatus status query
        | none => Absent query)
      fun _ calls => ∃ query, calls = [(queryCommand c, query)] ∧ ¬Succeeded query ∧
        ¬Absent query := by
  rw [Gcloud.clusterStatus, describeClusterCommand_clusterName]
  refine (ensures_run (queryCommand c)).bind (fun o before hbefore => ?_) ?_
  · split
    · rename_i hs
      refine (ensures_pure _).mono ?_ nofun
      rintro _ after ⟨rfl, rfl⟩
      exact ⟨.ok o, by rw [hbefore, List.append_nil], o, rfl, of_decide_eq_true hs, rfl⟩
    · rename_i hs
      have hno : o.status ≠ .success := fun h => hs (decide_eq_true h)
      split
      · rename_i hnotFound
        refine (ensures_pure _).mono ?_ nofun
        rintro _ after ⟨rfl, rfl⟩
        exact ⟨.ok o, by rw [hbefore, List.append_nil], o, rfl, hno,
          Gcloud.saysNotFound_iff.mp hnotFound⟩
      · rename_i hnotFound
        refine (ensures_ofExcept _).bind ?_ ?_
        · rintro p after ⟨hp, -⟩
          -- an output that is no success does not pass
          exact absurd ((Output.success?_eq_ok_iff ..).mp hp).1 hno
        · rintro e after ⟨-, rfl⟩
          refine ⟨.ok o, by rw [hbefore, List.append_nil], ?_, ?_⟩
          · rintro ⟨o', ho', hs'⟩
            obtain rfl := Except.ok.inj ho'
            exact hno hs'
          · rintro ⟨o', ho', -, hnotFound'⟩
            obtain rfl := Except.ok.inj ho'
            exact hnotFound (Gcloud.saysNotFound_iff.mpr hnotFound')
  · rintro e calls rfl
    exact ⟨.error e, rfl, nofun, nofun⟩

/-- The cluster is created, or the creation is absorbed, or it comes to nothing. -/
theorem ensures_createCluster (c : Configuration) (s : ClusterSettings) {query : Answer}
    (h : Absent query) :
    (createCluster c s .treatDuplicateAsSuccess .silent).Ensures
      (fun o calls => ∃ creation, calls = [(creationCommand c s, creation)] ∧
        Ready c query (some creation) o.warnings)
      fun f calls => ∃ creation, calls = [(creationCommand c s, creation)] ∧
        Ends c ⟨query, some creation, none⟩ (.error f) := by
  have hcreated := ensures_created (creationCommand c s) .treatDuplicateAsSuccess
    ("gcloud container clusters create-auto " ++ c.clusterName)
  rw [← createClusterCommand_clusterName] at hcreated ⊢
  refine .after_display ((hcreated.mapFailure _).bind ?_ ?_)
  · rintro creation before ⟨answer, rfl, htakes⟩
    -- a creation and a duplicate are the last two rules of `Ready`
    rcases takesFor_iff.mp htakes with ⟨rfl, hanswer⟩ | ⟨rfl, hanswer⟩
    · refine .after_display ((ensures_pure _).mono ?_ nofun)
      rintro _ after ⟨rfl, rfl⟩
      exact ⟨answer, rfl, .created h hanswer⟩
    · refine .after_display ((ensures_pure _).mono ?_ nofun)
      rintro _ after ⟨rfl, rfl⟩
      exact ⟨answer, rfl, .absorbed h hanswer⟩
  · rintro f calls ⟨e, rfl, answer, rfl, hno⟩
    refine ⟨answer, rfl, .stopped (.refused h ?_ ?_) ⟨_, rfl, rfl, rfl⟩⟩
    · exact fun hanswer => hno _ (takesFor_iff.mpr (.inl ⟨rfl, hanswer⟩))
    · exact fun hanswer => hno _ (takesFor_iff.mpr (.inr ⟨rfl, hanswer⟩))

/-- **The cluster is there, or the trace ends.** -/
theorem ensures_ensureCluster (c : Configuration) (s : ClusterSettings) :
    (ensureCluster c s .treatDuplicateAsSuccess).Ensures
      (fun o calls => ∃ query creation?, calls = Trace.calls ⟨query, creation?, none⟩ c s ∧
        Ready c query creation? o.warnings)
      fun f calls => ∃ t : Trace, calls = t.calls c s ∧ Ends c t (.error f) := by
  refine ((ensures_clusterStatus c).mapFailure _).bind ?_ ?_
  · rintro status? before ⟨query, rfl, hquery⟩
    cases status? with
    | some status =>
      dsimp only at hquery ⊢
      split
      · rename_i husable
        refine .after_display ((ensures_pure _).mono ?_ nofun)
        rintro _ after ⟨rfl, rfl⟩
        exact ⟨query, none, rfl, .found ((usable_iff_of_status hquery).mpr husable)⟩
      · rename_i husable
        refine (ensures_ofExcept _).mono (fun _ _ h => nomatch h.1) ?_
        rintro f after ⟨hf, rfl⟩
        obtain rfl := Except.error.inj hf
        have hno : ¬Usable query := fun h => husable ((usable_iff_of_status hquery).mp h)
        exact ⟨_, rfl, .stopped (.unhealthy hquery.succeeded hno) ⟨_, rfl, rfl, rfl⟩⟩
    | none =>
      refine (ensures_createCluster c s hquery).mono ?_ ?_
      · rintro o after ⟨creation, rfl, hready⟩
        exact ⟨query, some creation, rfl, hready⟩
      · rintro f after ⟨creation, rfl, hends⟩
        exact ⟨_, rfl, hends⟩
  · rintro f calls ⟨e, rfl, query, rfl, hno, hno'⟩
    exact ⟨_, rfl, .stopped (.unknown hno hno') ⟨_, rfl, rfl, rfl⟩⟩

/-- **A deployment of the cluster has a trace, which ends as it does.** -/
theorem ends_cluster (c : Configuration) (s : ClusterSettings) :
    (cluster c s .treatDuplicateAsSuccess).Ensures
      (fun o calls => ∃ t : Trace, calls = t.calls c s ∧ Ends c t (.ok o))
      fun f calls => ∃ t : Trace, calls = t.calls c s ∧ Ends c t (.error f) := by
  refine (ensures_ensureCluster c s).bind ?_ fun _ _ h => h
  rintro o before ⟨query, creation?, rfl, hready⟩
  have hgrant := ((ensures_runChecked (grantCommand c)).read fun _ => ()).mapFailure
    (failure FailureCode.credentials "cannot fetch cluster credentials" c.clusterName)
  rw [← credentialsCommand_clusterName] at hgrant
  refine hgrant.bind ?_ ?_
  · rintro _ calls ⟨output, -, rfl, hs⟩
    refine .after_display ((ensures_pure _).mono ?_ nofun)
    rintro _ after ⟨rfl, rfl⟩
    refine ⟨⟨query, creation?, some (.ok output)⟩, ?_, .granted hready ⟨output, rfl, hs⟩⟩
    simp [Trace.calls, credentialsCommand_clusterName]
  · rintro f calls ⟨e, rfl, answer, rfl, hno⟩
    refine ⟨⟨query, creation?, some answer⟩, ?_, .ungranted hready ?_ ⟨_, rfl, rfl, rfl⟩⟩
    · simp [Trace.calls, credentialsCommand_clusterName]
    · rintro ⟨output, rfl, hs⟩
      exact hno output rfl hs

/-! ### What the table says -/

section Table

variable {t : Trace} {result : Except Failure Outcome} {query : Answer} {creation? : Option Answer}
  {warnings : List String}

namespace Ready

theorem creates_iff (h : Ready c query creation? warnings) : creation?.isSome ↔ Absent query := by
  cases h with
  | found h => exact ⟨nofun, fun habsent => absurd h.succeeded habsent.not_succeeded⟩
  | created h _ => exact ⟨fun _ => h, fun _ => rfl⟩
  | absorbed h _ => exact ⟨fun _ => h, fun _ => rfl⟩

/-- What makes the cluster be there. -/
theorem usable_or (h : Ready c query creation? warnings) :
    Usable query ∨ ∃ creation, creation? = some creation ∧
      (Succeeded creation ∨ Duplicate creation) := by
  cases h with
  | found h => exact .inl h
  | created _ h => exact .inr ⟨_, rfl, .inl h⟩
  | absorbed _ h => exact .inr ⟨_, rfl, .inr h⟩

/-- There is a warning for a duplicate, and no other. -/
theorem warnings_eq (h : Ready c query creation? warnings) :
    (∀ creation, creation? = some creation → Duplicate creation →
      warnings = [duplicateWarning c]) ∧
    ((∀ creation, creation? = some creation → ¬Duplicate creation) → warnings = []) := by
  cases h with
  | found _ => exact ⟨nofun, fun _ => rfl⟩
  | created _ h =>
    refine ⟨fun creation hsome hduplicate => ?_, fun _ => rfl⟩
    obtain rfl := Option.some.inj hsome
    exact absurd h hduplicate.not_succeeded
  | absorbed _ h => exact ⟨fun _ _ _ => rfl, fun hno => absurd h (hno _ rfl)⟩

end Ready

namespace Stops

variable {code : UInt16}

theorem creates_iff (h : Stops query creation? code) : creation?.isSome ↔ Absent query := by
  cases h with
  | unhealthy h _ => exact ⟨nofun, fun habsent => absurd h habsent.not_succeeded⟩
  | unknown _ hno => exact ⟨nofun, fun habsent => absurd habsent hno⟩
  | refused h _ _ => exact ⟨fun _ => h, fun _ => rfl⟩

/-- Where the deployment stops, the cluster is not there. -/
theorem not_ready (h : Stops query creation? code) :
    ¬(Usable query ∨ ∃ creation, creation? = some creation ∧
      (Succeeded creation ∨ Duplicate creation)) := by
  rintro (husable | ⟨creation, hsome, hcreation⟩)
  · cases h with
    | unhealthy _ hno => exact hno husable
    | unknown h _ => exact h husable.succeeded
    | refused h _ _ => exact h.not_succeeded husable.succeeded
  · cases h with
    | unhealthy _ _ => cases hsome
    | unknown _ _ => cases hsome
    | refused _ hno hno' =>
      obtain rfl := Option.some.inj hsome
      exact hcreation.elim hno hno'

/-- The code tells the reasons apart. -/
theorem code_eq (h : Stops query creation? code) :
    (Succeeded query → code = 3005) ∧ (¬Succeeded query → code = 3004) := by
  cases h with
  | unhealthy h _ => exact ⟨fun _ => rfl, fun hno => absurd h hno⟩
  | unknown h _ => exact ⟨fun hquery => absurd hquery h, fun _ => rfl⟩
  | refused h _ _ => exact ⟨fun hquery => absurd hquery h.not_succeeded, fun _ => rfl⟩

end Stops

theorem FailsWith.not_ok {code : UInt16} (h : FailsWith code result) : ¬∃ o, result = .ok o := by
  obtain ⟨f, rfl, -⟩ := h
  exact nofun

namespace Ends

theorem creates_iff (h : Ends c t result) : t.creation?.isSome ↔ Absent t.query := by
  cases h with
  | stopped h _ => exact h.creates_iff
  | ungranted h _ _ => exact h.creates_iff
  | granted h _ => exact h.creates_iff

theorem grants_iff (h : Ends c t result) : t.grant?.isSome ↔
    Usable t.query ∨ ∃ creation, t.creation? = some creation ∧
      (Succeeded creation ∨ Duplicate creation) := by
  cases h with
  | stopped h _ => exact ⟨nofun, fun hready => absurd hready h.not_ready⟩
  | ungranted h _ _ => exact ⟨fun _ => h.usable_or, fun _ => rfl⟩
  | granted h _ => exact ⟨fun _ => h.usable_or, fun _ => rfl⟩

theorem succeeds_iff (h : Ends c t result) :
    (∃ o, result = .ok o) ↔ ∃ grant, t.grant? = some grant ∧ Succeeded grant := by
  cases h with
  | stopped _ hresult => exact ⟨fun hok => absurd hok hresult.not_ok, nofun⟩
  | ungranted _ hno hresult =>
    refine ⟨fun hok => absurd hok hresult.not_ok, fun ⟨grant, hsome, hgrant⟩ => ?_⟩
    obtain rfl := Option.some.inj hsome
    exact absurd hgrant hno
  | granted _ hgrant => exact ⟨fun _ => ⟨_, rfl, hgrant⟩, fun _ => ⟨_, rfl⟩⟩

/-- Where no credentials are asked for, the query decides on the code. -/
theorem fails_of_no_grant (h : Ends c t result) (hgrant : t.grant? = none) :
    (Succeeded t.query → FailsWith 3005 result) ∧ (¬Succeeded t.query → FailsWith 3004 result) := by
  cases h with
  | stopped h hresult =>
    obtain ⟨hsucceeded, hfailed⟩ := h.code_eq
    exact ⟨fun hquery => hsucceeded hquery ▸ hresult, fun hquery => hfailed hquery ▸ hresult⟩
  | ungranted _ _ _ => cases hgrant
  | granted _ _ => cases hgrant

/-- A query that finds neither a usable cluster nor none ends a trace at once. -/
theorem no_more (h : Ends c t result) (hno : ¬Usable t.query) (hno' : ¬Absent t.query) :
    t.creation? = none ∧ t.grant? = none := by
  have hcreation : t.creation? = none := by
    rw [← Option.not_isSome_iff_eq_none, h.creates_iff]
    exact hno'
  refine ⟨hcreation, ?_⟩
  rw [← Option.not_isSome_iff_eq_none, h.grants_iff, hcreation]
  rintro (husable | ⟨_, hnone, -⟩)
  · exact hno husable
  · cases hnone

theorem unhealthy (h : Ends c t result) (hquery : Succeeded t.query) (hno : ¬Usable t.query) :
    t.creation? = none ∧ t.grant? = none ∧ FailsWith 3005 result := by
  obtain ⟨hcreation, hgrant⟩ := h.no_more hno fun habsent => habsent.not_succeeded hquery
  exact ⟨hcreation, hgrant, (h.fails_of_no_grant hgrant).1 hquery⟩

theorem unknown (h : Ends c t result) (hquery : ¬Succeeded t.query) (hno : ¬Absent t.query) :
    t.creation? = none ∧ t.grant? = none ∧ FailsWith 3004 result := by
  obtain ⟨hcreation, hgrant⟩ := h.no_more (fun husable => hquery husable.succeeded) hno
  exact ⟨hcreation, hgrant, (h.fails_of_no_grant hgrant).2 hquery⟩

/-- A creation that comes to nothing ends a trace. -/
theorem refused (h : Ends c t result) {creation : Answer} (hsome : t.creation? = some creation)
    (hno : ¬Succeeded creation) (hno' : ¬Duplicate creation) :
    t.grant? = none ∧ FailsWith 3004 result := by
  have habsent : Absent t.query := by
    rw [← h.creates_iff, hsome]
    rfl
  have hgrant : t.grant? = none := by
    rw [← Option.not_isSome_iff_eq_none, h.grants_iff, hsome]
    rintro (husable | ⟨creation', hsame, hcreation⟩)
    · exact habsent.not_succeeded husable.succeeded
    · obtain rfl := Option.some.inj hsame
      exact hcreation.elim hno hno'
  exact ⟨hgrant, (h.fails_of_no_grant hgrant).2 habsent.not_succeeded⟩

theorem ungranted_of (h : Ends c t result) {grant : Answer} (hsome : t.grant? = some grant)
    (hno : ¬Succeeded grant) : FailsWith 3006 result := by
  cases h with
  | stopped _ _ => cases hsome
  | ungranted _ _ hresult => exact hresult
  | granted _ hgrant =>
    obtain rfl := Option.some.inj hsome
    exact absurd hgrant hno

theorem warnings_eq {o : Outcome} (h : Ends c t (.ok o)) :
    (∀ creation, t.creation? = some creation → Duplicate creation →
      o.warnings = [duplicateWarning c]) ∧
    ((∀ creation, t.creation? = some creation → ¬Duplicate creation) → o.warnings = []) := by
  cases h with
  | stopped _ hresult => exact absurd ⟨o, rfl⟩ hresult.not_ok
  | ungranted _ _ hresult => exact absurd ⟨o, rfl⟩ hresult.not_ok
  | granted h _ => exact h.warnings_eq

end Ends

end Table

/-! ### The protocol -/

/-- **The protocol of the cluster**: what the calls of a deployment and its result have to do with
the answers that it has had. -/
structure Protocol (c : Configuration) (s : ClusterSettings) (runner : Runner) (past : List Command)
    (t : Trace) (calls : List Call) (result : Except Failure Outcome) : Prop where
  /-- The cluster is queried first and once, and then created at most once, and last the credentials
  are fetched at most once. -/
  calls_eq : calls = t.calls c s
  distinct : [queryCommand c, creationCommand c s, grantCommand c].Nodup
  /-- All commands are about the same cluster. -/
  about : ∀ call ∈ calls, IsAbout c call.1
  /-- The answers are those of the runner. -/
  answered : Answered runner past calls
  /-- The cluster is created exactly if the query says that there is none. -/
  creates_iff : t.creation?.isSome ↔ Absent t.query
  /-- What is there is not created. -/
  kept : Succeeded t.query → t.creation? = none
  /-- The credentials are fetched exactly if the cluster is there. -/
  grants_iff : t.grant?.isSome ↔ Usable t.query ∨ ∃ creation, t.creation? = some creation ∧
    (Succeeded creation ∨ Duplicate creation)
  /-- The deployment succeeds exactly if it gets them. -/
  succeeds_iff : (∃ o, result = .ok o) ↔ ∃ grant, t.grant? = some grant ∧ Succeeded grant
  unhealthy : Succeeded t.query → ¬Usable t.query →
    t.creation? = none ∧ t.grant? = none ∧ FailsWith 3005 result
  unknown : ¬Succeeded t.query → ¬Absent t.query →
    t.creation? = none ∧ t.grant? = none ∧ FailsWith 3004 result
  refused : ∀ creation, t.creation? = some creation → ¬Succeeded creation → ¬Duplicate creation →
    t.grant? = none ∧ FailsWith 3004 result
  ungranted : ∀ grant, t.grant? = some grant → ¬Succeeded grant → FailsWith 3006 result
  /-- There is one warning for a duplicate, and none otherwise. -/
  warnings : ∀ o, result = .ok o →
    (∀ creation, t.creation? = some creation → Duplicate creation →
      o.warnings = [duplicateWarning c]) ∧
    ((∀ creation, t.creation? = some creation → ¬Duplicate creation) → o.warnings = [])

/-- The calls of a trace are made with the three commands. -/
theorem mem_commands_of_mem_calls {t : Trace} {call : Call} (h : call ∈ t.calls c s) :
    call.1 ∈ [queryCommand c, creationCommand c s, grantCommand c] := by
  rcases List.mem_append.mp h with h | h
  · rcases List.mem_cons.mp h with rfl | h
    · exact List.mem_cons_self
    · obtain ⟨_, -, rfl⟩ := List.mem_map.mp h
      exact List.mem_cons_of_mem _ List.mem_cons_self
  · obtain ⟨_, -, rfl⟩ := List.mem_map.mp h
    exact List.mem_cons_of_mem _ (List.mem_cons_of_mem _ List.mem_cons_self)

/-- **A deployment of the cluster follows the protocol**, whatever the configuration, what answers
the commands and what has happened before. -/
theorem protocol_cluster (c : Configuration) (s : ClusterSettings) (runner : Runner)
    (past : List Event) :
    let deployment := cluster c s .treatDuplicateAsSuccess
    ∃ t, Protocol c s runner (commandsOf past) t (callsOf (deployment.events runner past))
      (deployment.result runner past) := by
  intro deployment
  have htrace : ∃ t : Trace, callsOf (deployment.events runner past) = t.calls c s ∧
      Ends c t (deployment.result runner past) := by
    have hends := ends_cluster c s runner past
    cases hresult : deployment.result runner past with
    | ok o => rwa [hresult] at hends
    | error f => rwa [hresult] at hends
  have hanswered := faithful_of_made_steps (made_cluster c s .treatDuplicateAsSuccess) runner past
  obtain ⟨t, hcalls, hends⟩ := htrace
  refine ⟨t, hcalls, nodup_commands c s, ?_, hanswered, hends.creates_iff, ?_, hends.grants_iff,
    hends.succeeds_iff, hends.unhealthy, hends.unknown, fun _ => hends.refused,
    fun _ => hends.ungranted_of, fun _ ho => (ho ▸ hends).warnings_eq⟩
  · intro call hcall
    rw [hcalls] at hcall
    exact isAbout_of_mem c s (mem_commands_of_mem_calls hcall)
  · intro hquery
    rw [← Option.not_isSome_iff_eq_none, hends.creates_iff]
    exact fun habsent => habsent.not_succeeded hquery

end Rollout.Stages.Provisioning
