import Rollout.Proofs.Contract
import Rollout.Proofs.Gating
import Rollout.Proofs.FailFast
import Rollout.Proofs.Listing
import Rollout.Proofs.Lookups

/-!
# Success only on evidence

A stage that applies manifests and is reported a success has the history of one: the commands that
apply, and behind them, for each workload of the stage in its order, a *watch* over that workload,
which is one look after another until the last has found the workload as it has to be
(`Rollout.Watch`). Nothing else is among the calls of the stage, and no look was passed over.

What a workload has to be like is said of the object that describes it (`Rollout.Condition.HoldsOf`),
apart from how the program judges it; that the judgement is sound is
`Rollout.Condition.holdsOf_of_ready`. The rest is a chain of contracts (`Rollout.Attempt.Yields`),
from a single look up to the work of a stage, and the main statement is `Rollout.evidence_of_run`.
-/

namespace Rollout

open Tools Stages Attempt

/-! ### What a workload has to be like -/

/-- **An object has as many as it wants**: the number behind one path, which counts as `default` where
it is absent, is no greater than the number behind another. -/
def HasWanted (object : Json) (wanted : List String) (default : Int) (there : List String) : Prop :=
  ∃ n m, Json.CountsAs wanted default object n ∧ Json.CountsAs there 0 object m ∧ n ≤ m

/-- **An object has an address**: an entry of its has one, under one of two names, as a text that is
not empty. -/
def HasAddress (object : Json) : Prop :=
  ∃ entries entry name address,
    Json.At (.list entries) ["status", "loadBalancer", "ingress"] object ∧ entry ∈ entries ∧
      (name = "ip" ∨ name = "hostname") ∧ Json.Has name (.text address) entry ∧ address ≠ ""

/-- **A condition holds of the object that describes its workload.** A number that is absent, or is
none of 64 bits, counts as zero; a wish for replicas that is absent counts as one. -/
def Condition.HoldsOf (c : Condition) (object : Json) : Prop :=
  match c.kind, c.predicate with
  | .deployment, .available =>
    HasWanted object ["metadata", "generation"] 0 ["status", "observedGeneration"] ∧
      HasWanted object ["spec", "replicas"] 1 ["status", "availableReplicas"]
  | .statefulSet, .available =>
    HasWanted object ["spec", "replicas"] 1 ["status", "readyReplicas"]
  | .service, .available => True
  | .service, .externalIp => HasAddress object
  | .deployment, .externalIp | .statefulSet, .externalIp => False

/-- What is read is what the numbers count as. -/
theorem hasWanted_of_le {object : Json} {wanted there : List String} {default : Int}
    (h : Status.intAt object wanted default ≤ Status.intAt object there 0) :
    HasWanted object wanted default there :=
  ⟨_, _, Json.countsAs_iff.mpr rfl, Json.countsAs_iff.mpr rfl, h⟩

/-- An entry with an address has it under one of two names, as a text that is not empty. -/
theorem has_of_address? {entry : Json} {address : String}
    (h : Status.address? entry = some address) :
    ∃ name, (name = "ip" ∨ name = "hostname") ∧ Json.Has name (.text address) entry ∧
      address ≠ "" := by
  obtain ⟨htext, hne⟩ := Option.filter_eq_some_iff.mp h
  have haddress : address ≠ "" := by simpa using hne
  obtain ⟨value, hvalue, hread⟩ := Option.bind_eq_some_iff.mp htext
  obtain rfl : value = .text address := by
    cases value <;> cases hread
    rfl
  rcases Option.or_eq_some_iff.mp hvalue with hip | ⟨-, hhost⟩
  · exact ⟨"ip", .inl rfl, Json.has_iff.mpr hip, haddress⟩
  · exact ⟨"hostname", .inr rfl, Json.has_iff.mpr hhost, haddress⟩

theorem hasWanted_of_ready_ofDeployment {object : Json}
    (h : (Status.ofDeployment object).ready = true) :
    HasWanted object ["metadata", "generation"] 0 ["status", "observedGeneration"] ∧
      HasWanted object ["spec", "replicas"] 1 ["status", "availableReplicas"] := by
  unfold Status.ofDeployment at h
  dsimp only at h
  split at h
  · cases h
  · exact ⟨hasWanted_of_le (Int.not_lt.mp ‹_›), hasWanted_of_le (of_decide_eq_true h)⟩

theorem hasWanted_of_ready_ofStatefulSet {object : Json}
    (h : (Status.ofStatefulSet object).ready = true) :
    HasWanted object ["spec", "replicas"] 1 ["status", "readyReplicas"] :=
  hasWanted_of_le (of_decide_eq_true h)

theorem hasAddress_of_ready_ofService {object : Json}
    (h : (Status.ofService object).ready = true) : HasAddress object := by
  unfold Status.ofService at h
  dsimp only at h
  split at h
  · rename_i address hfound
    obtain ⟨entry, hentry, haddress⟩ := List.exists_of_findSome?_eq_some hfound
    obtain ⟨name, hname, hhas, hne⟩ := has_of_address? haddress
    -- an entry was found, so there is a list of them
    cases hitems : (object.path? ["status", "loadBalancer", "ingress"]).bind Json.items? with
    | none =>
      rw [hitems] at hentry
      cases hentry
    | some entries =>
      rw [hitems] at hentry
      obtain ⟨value, hvalue, hlist⟩ := Option.bind_eq_some_iff.mp hitems
      obtain rfl : value = .list entries := by
        cases value <;> cases hlist
        rfl
      exact ⟨entries, entry, name, address, Json.at_iff.mpr hvalue, hentry, hname, hhas, hne⟩
  · cases h

/-- **A look that says ready is right.** -/
theorem Condition.holdsOf_of_ready {c : Condition} {object : Json} {status : Status}
    (h : Status.evaluate c.kind c.predicate object = .ok status) (hready : status.ready = true) :
    c.HoldsOf object := by
  obtain ⟨kind, name, space, predicate, timeout⟩ := c
  cases predicate with
  | available =>
    cases kind with
    | deployment =>
      obtain rfl := Except.ok.inj h
      exact hasWanted_of_ready_ofDeployment hready
    | statefulSet =>
      obtain rfl := Except.ok.inj h
      exact hasWanted_of_ready_ofStatefulSet hready
    | service => trivial
  | externalIp =>
    cases kind with
    | deployment => cases h
    | statefulSet => cases h
    | service =>
      obtain rfl := Except.ok.inj h
      exact hasAddress_of_ready_ofService hready

/-! ### Watching a workload -/

/-- A command that succeeded. -/
def Succeeded (call : Call) : Prop := ∃ o, call.2 = .ok o ∧ o.status = .success

/-- **A look at a workload**: the cluster was asked for it, and answered with an object. -/
def Looked (limit : Duration) (c : Condition) (call : Call) (object : Json) : Prop :=
  (∃ kind, (c.kind, kind) ∈ kindNames ∧ call.1 =
      { kubectl ["get", kind, c.name, "-n", c.space, "-o", "json"] with timeout := some limit }) ∧
    ∃ o, call.2 = .ok o ∧ o.status = .success ∧ Json.parse o.stdout = .ok object

/-- **A watch over a workload**: looks at it, the last of which finds it as it has to be. -/
inductive Watch (limit : Duration) (c : Condition) : List Call → Prop
  | last {call : Call} {object : Json} (h : Looked limit c call object) (hc : c.HoldsOf object) :
      Watch limit c [call]
  | look {call : Call} {object : Json} {rest : List Call} (h : Looked limit c call object)
      (hrest : Watch limit c rest) : Watch limit c (call :: rest)

/-- Watches over some workloads, one behind the other. -/
inductive Watches (limit : Duration) : List Condition → List Call → Prop
  | nil : Watches limit [] []
  | cons {c : Condition} {rest : List Condition} {watch calls : List Call}
      (h : Watch limit c watch) (hrest : Watches limit rest calls) :
      Watches limit (c :: rest) (watch ++ calls)

/-- A command that succeeded gives its output, and nothing else was run. -/
theorem yields_runChecked (c : Command) :
    (runChecked c).Yields fun o calls => calls = [(c, .ok o)] ∧ o.status = .success :=
  (ensures_runChecked c).mono (fun _ _ h => h) fun _ _ _ => trivial

theorem yields_ofCluster (limit : Duration) (c : Condition) :
    (Probe.ofCluster limit c).Yields fun status calls => ∃ call object, calls = [call] ∧
      Looked limit c call object ∧ Status.evaluate c.kind c.predicate object = .ok status := by
  refine Yields.bind (Yields.mapFailure (Ensures.read (yields_runChecked _) _) _) ?_
  rintro text before ⟨o, rfl, rfl, hs⟩
  refine (ensures_ofExcept (Probe.judge c o.stdout)).mono ?_ fun _ _ _ => trivial
  rintro status after ⟨hjudge, rfl⟩
  unfold Probe.judge at hjudge
  split at hjudge
  · cases hjudge
  · rename_i object hobject
    refine ⟨_, object, rfl, ⟨⟨_, mem_kindNames c.kind, rfl⟩, o, rfl, hs, hobject⟩, ?_⟩
    cases he : Status.evaluate c.kind c.predicate object with
    | ok s =>
      rw [he] at hjudge
      exact congrArg _ (Except.ok.inj hjudge)
    | error message =>
      rw [he] at hjudge
      cases hjudge

section Waits

variable {limit : Duration} {interval : Duration}

/-- The recursion is that of the wait; a wait that is satisfied ends with the look that found the
workload ready. -/
theorem yields_waitFrom (c : Condition) (attempts : Nat) (elapsed : Duration) :
    (Waiter.waitFrom ⟨Probe.ofCluster limit, interval⟩ c attempts elapsed).Yields fun wait calls =>
      ∀ looks time detail, wait = .satisfied looks time detail → Watch limit c calls := by
  fun_induction Waiter.waitFrom ⟨Probe.ofCluster limit, interval⟩ c attempts elapsed with
  | case1 attempts elapsed ih =>
    refine .after_silent (fun _ _ => rfl) fun _ => Yields.bind (yields_ofCluster limit c) ?_
    rintro status before ⟨call, object, rfl, hlooked, hjudged⟩
    split
    · rename_i hready
      refine (ensures_pure _).mono ?_ fun _ _ h => h.elim
      rintro wait after ⟨rfl, rfl⟩ looks time detail -
      exact .last hlooked (Condition.holdsOf_of_ready hjudged hready)
    · split
      · rename_i h
        refine .after_silent (fun _ _ => rfl) fun _ => Yields.mono (ih h) ?_
        intro wait after hafter looks time detail hwait
        exact .look hlooked (hafter looks time detail hwait)
      · refine (ensures_pure _).mono ?_ fun _ _ h => h.elim
        rintro wait after ⟨rfl, rfl⟩ looks time detail hwait
        cases hwait

theorem yields_require (c : Condition) :
    (Waiter.require ⟨Probe.ofCluster limit, interval⟩ c).Yields fun _ calls =>
      Watch limit c calls := by
  refine Yields.bind (yields_waitFrom c 0 .zero) fun wait before hwait => ?_
  cases wait with
  | satisfied looks time detail =>
    refine (ensures_pure _).mono ?_ nofun
    rintro text after ⟨-, rfl⟩
    rw [List.append_nil]
    exact hwait looks time detail rfl
  | timedOut looks time status =>
    exact (ensures_ofExcept _).mono (fun _ _ h => nomatch h.1) fun _ _ _ => trivial

theorem yields_announce (c : Condition) (detail : String) (o : Outcome) :
    (Pipeline.announce c detail o).Yields fun _ calls => calls = [] := by
  unfold Pipeline.announce
  split
  · exact .after_display ((ensures_pure _).mono (fun _ _ h => h.2) nofun)
  · exact .after_display ((ensures_pure _).mono (fun _ _ h => h.2) nofun)

/-- **A stage that gets past its waits has watched each of its workloads.** -/
theorem yields_await (conditions : List Condition) (o : Outcome) :
    (Pipeline.await ⟨Probe.ofCluster limit, interval⟩ conditions o).Yields fun _ calls =>
      Watches limit conditions calls := by
  induction conditions generalizing o with
  | nil => exact (ensures_pure o).mono (fun _ _ h => h.2 ▸ .nil) nofun
  | cons c rest ih =>
    refine .after_display (Yields.bind (yields_require c) fun detail watch hwatch => ?_)
    refine Yields.bind (yields_announce c detail o) fun o' before hbefore => ?_
    subst hbefore
    exact (ih o').mono fun _ _ h => .cons hwatch h

end Waits

/-! ### Applying manifests -/

/-- **Some commands were run in order**, and each of them succeeded. -/
def Carried (commands : List Command) (calls : List Call) : Prop :=
  calls.map Prod.fst = commands ∧ ∀ call ∈ calls, Succeeded call

theorem Carried.single {c : Command} {o : Output} (h : o.status = .success) :
    Carried [c] [(c, .ok o)] :=
  ⟨rfl, fun _ hcall => List.mem_singleton.mp hcall ▸ ⟨o, rfl, h⟩⟩

theorem Carried.append {cs cs' : List Command} {calls calls' : List Call} (h : Carried cs calls)
    (h' : Carried cs' calls') : Carried (cs ++ cs') (calls ++ calls') := by
  refine ⟨by rw [List.map_append, h.1, h'.1], fun call hcall => ?_⟩
  exact (List.mem_append.mp hcall).elim (h.2 call) (h'.2 call)

theorem yields_applyPath (files : Files) (path : String) :
    (Manifests.applyPath files path).Yields fun _ calls =>
      Carried [kubectl ["apply", "-f", path]] calls := by
  unfold Manifests.applyPath
  split
  · refine .after_display (Yields.mono (Ensures.read
      (Yields.mapFailure (Ensures.read (yields_runChecked _) _) _) fun _ => ()) ?_)
    rintro x calls ⟨text, -, o, -, rfl, hs⟩
    exact .single hs
  · exact (ensures_ofExcept _).mono (fun _ _ h => nomatch h.1) fun _ _ _ => trivial

theorem yields_applyAll (files : Files) (paths : List String) :
    (Manifests.applyAll files paths).Yields fun _ calls =>
      Carried (paths.map fun path => kubectl ["apply", "-f", path]) calls := by
  induction paths with
  | nil => exact (ensures_pure ()).mono (fun _ _ h => h.2 ▸ ⟨rfl, nofun⟩) nofun
  | cons path rest ih =>
    refine Yields.bind (yields_applyPath files path) fun _ before hbefore => ?_
    exact ih.mono fun _ _ h => hbefore.append h

theorem yields_deployBase (files : Files) (s : BaseAppSettings) :
    (Manifests.deployBase files s).Yields fun _ calls =>
      Carried ((s.extras ++ [s.manifests]).map fun path => kubectl ["apply", "-f", path]) calls := by
  refine Yields.bind (yields_applyAll files _) fun _ before hbefore => .after_display ?_
  refine (ensures_pure _).mono (fun _ _ h => ?_) nofun
  rwa [h.2, List.append_nil]

/-- What is created under a policy was created, or was there already. -/
theorem yields_created {c : Command} (hc : Creates c) (policy : Policy) (label : String) :
    (Provisioning.created policy label (run c)).Yields fun _ calls => ∃ answer,
      calls = [(c, answer)] ∧ Tolerated c answer := by
  refine Ensures.bind (ensures_run c) (fun o before hbefore => ?_) fun _ _ _ => trivial
  refine (ensures_ofExcept _).mono ?_ fun _ _ _ => trivial
  rintro creation after ⟨hresolve, rfl⟩
  exact ⟨.ok o, by rw [hbefore, List.append_nil], tolerated_of_resolve hc hresolve⟩

theorem yields_ensureNamespace (space : String) (policy : Policy) (o : Outcome) :
    (Manifests.ensureNamespace space policy o).Yields fun _ calls => ∃ answer,
      calls = [(kubectl ["create", "namespace", space], answer)] ∧
        Tolerated (kubectl ["create", "namespace", space]) answer := by
  refine Yields.bind (Yields.mapFailure (yields_created (.namespace space) policy _) _) ?_
  rintro creation before hbefore
  have hsilent : ∀ after, after = [] → before ++ after = before := by simp
  cases creation with
  | created =>
    refine .after_display ((ensures_pure o).mono (fun _ _ h => ?_) nofun)
    rwa [hsilent _ h.2]
  | alreadyExisted =>
    refine .after_display ((ensures_pure _).mono (fun _ _ h => ?_) nofun)
    rwa [hsilent _ h.2]

/-- The agents are applied by one command, behind the one for their namespace. -/
theorem yields_deployAgents (files : Files) (c : Configuration) (s : AgentSettings)
    (policy : Policy) :
    (Manifests.deployAgents files c s policy).Yields fun _ calls => ∃ answer document applied,
      calls = (kubectl ["create", "namespace", s.space], answer) :: applied ∧
        Tolerated (kubectl ["create", "namespace", s.space]) answer ∧
        Carried [{ kubectl ["apply", "-f", "-"] with stdin := some document }] applied := by
  refine Ensures.bind (ensures_ofExcept _) ?_ fun _ _ _ => trivial
  rintro ⟨name, document⟩ before ⟨-, rfl⟩
  refine Yields.bind (yields_ensureNamespace s.space policy .silent) ?_
  rintro o before ⟨answer, rfl, htolerated⟩
  refine .after_display (Yields.bind
    (Yields.mapFailure (Ensures.read (yields_runChecked _) _) _) ?_)
  rintro text before ⟨out, -, rfl, hs⟩
  refine .after_display ((ensures_pure o).mono ?_ nofun)
  rintro _ after ⟨-, rfl⟩
  exact ⟨answer, document, _, rfl, htolerated, .single hs⟩

/-! ### The evidence for a stage -/

/-- The workloads that a stage waits for. -/
def awaitedBy (settings : Settings) : StageId → List Condition
  | .baseApp => settings.baseApp.workloads
  | .agentSwarm => settings.agents.workloads
  | _ => []

/-- The conditions of a stage are those of the settings. -/
theorem readiness_of_mem_catalog {settings : Settings} {stage : Stage}
    (h : stage ∈ catalog settings) : stage.readiness = awaitedBy settings stage.id := by
  simp only [catalog, List.mem_cons, List.not_mem_nil, or_false] at h
  rcases h with rfl | rfl | rfl | rfl | rfl | rfl | rfl <;> rfl

/-- **What a stage has applied**: the base application all its manifests, and the agents theirs,
behind their namespace. -/
inductive Applied (settings : Settings) : StageId → List Call → Prop
  | baseApp {calls : List Call}
      (h : Carried ((settings.baseApp.extras ++ [settings.baseApp.manifests]).map
        fun path => kubectl ["apply", "-f", path]) calls) : Applied settings .baseApp calls
  | agentSwarm {answer : Answer} {document : String} {calls : List Call}
      (hspace : Tolerated (kubectl ["create", "namespace", settings.agents.space]) answer)
      (h : Carried [{ kubectl ["apply", "-f", "-"] with stdin := some document }] calls) :
      Applied settings .agentSwarm
        ((kubectl ["create", "namespace", settings.agents.space], answer) :: calls)

/-- **The evidence for a stage** in the calls that belong to it: what was applied, and behind it a
watch over each of its workloads. -/
def Evidence (settings : Settings) (id : StageId) (calls : List Call) : Prop :=
  ∃ applied watches, calls = applied ++ watches ∧ Applied settings id applied ∧
    Watches settings.readiness.probeTimeout (awaitedBy settings id) watches

/-- The work of a stage that applies manifests has applied them all. -/
theorem applied_of_outcome {files : Files} {settings : Settings} {env : Environment} {stage : Stage}
    {ctx : Context} {runner : Runner} {past : List Event} {o : Outcome}
    (hid : stage.id = .baseApp ∨ stage.id = .agentSwarm)
    (h : ((actions files settings env stage ctx).result runner past).outcome = .ok o) :
    Applied settings stage.id
      (callsOf ((actions files settings env stage ctx).events runner past)) := by
  unfold actions at h ⊢
  rcases hid with hid | hid
  · simp only [hid] at h ⊢
    rw [events_plain]
    exact .baseApp ((yields_deployBase files settings.baseApp).of_ok h)
  · simp only [hid, configured] at h ⊢
    rw [events_plain]
    -- to ask for the configuration runs nothing, so it is the deployment that has made the calls
    have hcontract : (do
        Manifests.deployAgents files (← Attempt.ofExcept ctx.require) settings.agents
          stage.policy).Yields fun _ calls => Applied settings .agentSwarm calls := by
      refine Ensures.bind (ensures_ofExcept _) ?_ fun _ _ _ => trivial
      rintro c before ⟨-, rfl⟩
      refine (yields_deployAgents files c settings.agents stage.policy).mono ?_
      rintro _ _ ⟨answer, document, applied, rfl, hspace, happlied⟩
      exact .agentSwarm hspace happlied
    exact hcontract.of_ok h

section Visits

variable {files : Files} {settings : Settings} {env : Environment} {runner : Runner} {v : Visit}

/-- **A stage that did not fail has its evidence.** -/
theorem evidence_of_good (hstage : v.stage ∈ catalog settings)
    (hid : v.stage.id = .baseApp ∨ v.stage.id = .agentSwarm)
    (hgood : v.failure? (pipeline files settings env) runner = none) :
    Evidence settings v.stage.id (callsOf (v.events (pipeline files settings env) runner)) := by
  obtain ⟨hinvoked, ⟨o, ho⟩, -⟩ := Visit.completed_of_good hgood
  obtain ⟨o', ho'⟩ := Visit.failure?_eq_none_iff.mp hgood
  rw [Visit.outcome_of_invoked hinvoked, ho] at ho'
  -- the calls of the visit are cut where the work ends and the waits begin
  refine ⟨callsOf (v.deeds (pipeline files settings env) runner),
    callsOf (v.waits (pipeline files settings env) runner), ?_, applied_of_outcome hid ho, ?_⟩
  · rw [Visit.events_of_invoked hinvoked, ← callsOf_append]
    rfl
  · rw [Visit.waits_of_outcome ho, ← readiness_of_mem_catalog hstage]
    exact (yields_await v.stage.readiness o).of_ok ho'

end Visits

/-! ### Runs -/

namespace Pipeline

variable {p : Pipeline} {runner : Runner} {stages : List Stage} {visits : List Visit}

/-- A record of success is that of a visit that did not fail. -/
theorem visit_of_succeeded {i : Nat} {record : StageRecord}
    (h : (p.recordsOf runner stages visits)[i]? = some record)
    (hs : record.status = .succeeded) :
    ∃ v, visits[i]? = some v ∧ record = v.record p runner ∧ v.failure? p runner = none := by
  rcases getElem?_recordsOf h with ⟨v, hv, rfl⟩ | ⟨-, stage, -, rfl⟩
  · refine ⟨v, hv, rfl, ?_⟩
    cases hf : v.failure? p runner with
    | none => rfl
    | some f =>
      rw [Visit.record_of_eq_some hf] at hs
      cases hs
  · cases hs

end Pipeline

open Pipeline in
/-- **A stage that applies manifests succeeds only on evidence**: where the report of a run says that
such a stage succeeded, the calls that the run made for it are what the stage applies and a watch
over each of its workloads. -/
theorem evidence_of_run (files : Files) (settings : Settings) (env : Environment) (goal : Goal)
    (command : String) (began : Timestamp) (runner : Runner) (past : List Event) :
    let p := pipeline files settings env
    let plan := Plan.ofGoal goal (catalog settings)
    let run := p.run plan (.begin command began)
    let visits := p.visits plan runner past
    Invokes p plan runner visits (run.events runner past) ∧
      ∀ (i : Nat) (record : StageRecord), (run.result runner past).1.stages[i]? = some record →
        record.status = .succeeded → record.stage = .baseApp ∨ record.stage = .agentSwarm →
        ∃ v, visits[i]? = some v ∧ v.stage.id = record.stage ∧
          Evidence settings record.stage (callsOf (v.events p runner)) := by
  intro p plan run visits
  refine ⟨invokes_run p plan runner past _, fun i record hrecord hs hid => ?_⟩
  have hrecords : (run.result runner past).1.stages = _ := records_run p plan runner past ..
  rw [hrecords] at hrecord
  obtain ⟨v, hv, rfl, hgood⟩ := visit_of_succeeded hrecord hs
  rw [Visit.stage_record] at hid ⊢
  refine ⟨v, hv, rfl, evidence_of_good ?_ hid hgood⟩
  have hplanned : v.stage ∈ plan.stages :=
    (p.stage_visits_prefix plan runner past).subset
      (List.mem_map_of_mem (List.mem_of_getElem? hv))
  exact (List.mem_filter.mp hplanned).1

end Rollout
