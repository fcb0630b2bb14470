import Rollout.Proofs.Acceptance
import Rollout.Proofs.Evidence
import Rollout.Proofs.Listing
import Rollout.Proofs.Provided
import Rollout.Proofs.Pushes
import Rollout.Proofs.Schedule

/-!
# Runs with settings that are accepted

What is checked when settings are read is what a run relies on later. The interval makes every wait
move on; the bound on the timeouts is that of the waits themselves, so that no wait is shorter than
its workload may take, and the looks can be counted with 32 bits; and the names of the images tell
their references apart.

A wait that keeps to its schedule (`Rollout.Waiter.Timed`) is one that *behaves well*
(`Rollout.Waiter.WellBehaved`) as soon as the settings are usable. The failure of a run that says
that a workload was not ready in time can only come from such a wait, and nothing happens behind the
wait: `Rollout.overdue_of_run`. The main statement is `Rollout.served_of_accepted`.

Intervals are whole milliseconds here, since that is how exactly time passes.
-/

namespace Rollout

open Duration

/-! ### Waits -/

/-- **A wait that behaves well**, given what happens in it and its result. -/
structure Waiter.WellBehaved (w : Waiter) (c : Condition) (events : List Event)
    (result : Except Failure Wait) : Prop where
  /-- The wait may take all the time that the workload may take. -/
  limit : Waiter.limit c = c.timeout
  /-- There are no more looks than are known beforehand, -/
  looks : (checksOf events).length ≤ w.pauses c + 1
  /-- and 32 bits are enough to count them. -/
  counted : (checksOf events).length < UInt32.size
  time : (timeOf events).nanos ≤ c.timeout.nanos
  satisfied : ∀ attempts elapsed detail, result = .ok (.satisfied attempts elapsed detail) →
    attempts = (checksOf events).length ∧ elapsed = timeOf events
  /-- A workload that was not ready in time was waited for exactly that time. -/
  timedOut : ∀ attempts elapsed status, result = .ok (.timedOut attempts elapsed status) →
    attempts = (checksOf events).length ∧ elapsed = c.timeout ∧ timeOf events = c.timeout

namespace Waiter

variable {w : Waiter} {c : Condition}

/-- Where no more than a day is asked for, no wait is cut short. -/
theorem limit_eq_timeout (h : c.timeout.nanos ≤ Settings.day.nanos) : limit c = c.timeout := by
  refine Duration.ext ?_
  rw [limit, nanos_min]
  exact Nat.min_eq_left h

/-- **A wait behaves well** if its looks take no time, its interval is long enough, and no more than
a day is asked for. -/
theorem wellBehaved_waitFor (hprompt : w.Prompt) (hpace : leastPause.nanos ≤ w.interval.nanos)
    (h : c.timeout.nanos ≤ Settings.day.nanos) (runner : Runner) (past : List Event) :
    w.WellBehaved c ((w.waitFor c).events runner past) ((w.waitFor c).result runner past) := by
  have hlimit := limit_eq_timeout h
  have hmillis := pauses_le hpace c
  have htimed := timed_waitFor hprompt hpace c runner past
  generalize (w.waitFor c).events runner past = events at htimed
  generalize (w.waitFor c).result runner past = result at htimed
  obtain ⟨hsome, hlooks, htime, hsatisfied, htimedOut⟩ := htimed
  -- the wait begins with nothing behind it, so that the time of its last look is its own
  simp only [Nat.zero_add, lookAt_zero] at hlooks htime hsatisfied htimedOut
  have hlast : timeOf events = w.lookAt c ((checksOf events).length - 1) :=
    Duration.ext (by rw [← htime, Duration.zero, Nat.zero_add])
  have hend : (w.lookAt c ((checksOf events).length - 1)).nanos ≤ c.timeout.nanos :=
    hlimit ▸ Nat.min_le_right ..
  have hcounted : 24 * 60 * 60 * 1000 + 1 < UInt32.size := by decide
  refine ⟨hlimit, hlooks, by omega, hlast ▸ hend, ?_, ?_⟩
  · intro attempts elapsed detail hr
    obtain ⟨rfl, rfl⟩ := hsatisfied attempts elapsed detail hr
    exact ⟨rfl, hlast.symm⟩
  · intro attempts elapsed status hr
    obtain ⟨rfl, hplaces, helapsed⟩ := htimedOut attempts elapsed status hr
    refine ⟨rfl, helapsed.trans hlimit, hlast.trans ?_⟩
    have hpositive : 0 < w.interval.nanos := Nat.lt_of_lt_of_le (by decide) hpace
    rw [hplaces, Nat.add_sub_cancel, lookAt_pauses hpositive, hlimit]

end Waiter

/-! ### Looks -/

/-- A look is one command. -/
theorem events_ofCluster (limit : Duration) (c : Condition) (runner : Runner) (past : List Event) :
    let command := Tools.Kubectl.getCommand c.kind.name c.name c.space limit
    (Probe.ofCluster limit c).events runner past =
      [.ran command (runner (commandsOf past) command)] := by
  intro command
  have htext : (Tools.Kubectl.getJson c.kind.name c.name c.space limit).events runner past =
      (Attempt.runChecked command).events runner past :=
    Attempt.events_judge (Attempt.runChecked command) fun o => .ok o.stdout
  rw [Probe.ofCluster, Attempt.events_judge, Attempt.events_mapFailure, htext,
    Attempt.events_runChecked]

/-- No time passes in a look, and it is no more than one. -/
theorem prompt_ofCluster (limit interval : Duration) :
    (Waiter.mk (Probe.ofCluster limit) interval).Prompt := by
  intro c runner past
  rw [events_ofCluster]
  exact ⟨rfl, rfl⟩

/-! ### Waits that fail -/

open Pipeline Stages

section Failing

variable {w : Waiter} {runner : Runner} {past : List Event} {f : Failure}

/-- A workload is not waited for with success where a look fails, or where the time is up. -/
theorem wait_of_require {c : Condition} (h : (w.require c).result runner past = .error f) :
    (w.waitFor c).result runner past = .error f ∨
      ∃ attempts elapsed status,
        (w.waitFor c).result runner past = .ok (.timedOut attempts elapsed status) ∧
          f = Waiter.timeoutFailure c attempts status := by
  unfold Waiter.require at h
  rw [Attempt.result_bind] at h
  cases hr : (w.waitFor c).result runner past with
  | error f' =>
    rw [hr] at h
    exact .inl (congrArg _ (Except.error.inj h))
  | ok wait =>
    rw [hr] at h
    cases wait with
    | satisfied attempts elapsed detail => cases h
    | timedOut attempts elapsed status =>
      cases h
      exact .inr ⟨attempts, elapsed, status, rfl, rfl⟩

/-- **The waits of a stage fail with the last of them.** -/
theorem require_of_await {conditions : List Condition} {o : Outcome}
    (h : (await w conditions o).result runner past = .error f) :
    ∃ c ∈ conditions, ∃ front,
      (await w conditions o).events runner past =
          front ++ (w.waitFor c).events runner (past ++ front) ∧
        (w.require c).result runner (past ++ front) = .error f := by
  induction conditions generalizing o past with
  | nil => cases h
  | cons c rest ih =>
    rw [await_cons, Attempt.result_bind_of_ok (Attempt.result_display _),
      Attempt.events_display] at h
    rw [await_cons, Attempt.events_bind_of_ok (Attempt.result_display _), Attempt.events_display]
    cases hr : (w.require c).result runner (past ++ [.shown (waitingLine c)]) with
    | error f' =>
      rw [Attempt.result_bind_of_error hr] at h
      cases h
      refine ⟨c, List.mem_cons_self, [.shown (waitingLine c)], ?_, hr⟩
      rw [Attempt.events_bind_of_error hr, events_require]
    | ok detail =>
      obtain ⟨o₁, ho₁⟩ := result_announce c detail o runner
        (past ++ [.shown (waitingLine c)] ++
          (w.waitFor c).events runner (past ++ [.shown (waitingLine c)]))
      rw [Attempt.result_bind_of_ok hr, events_require, Attempt.result_bind_of_ok ho₁,
        events_announce] at h
      -- the workload was ready, so that it is one behind it that was not
      obtain ⟨c', hc', front, hevents, herror⟩ := ih h
      refine ⟨c', List.mem_cons_of_mem _ hc', [.shown (waitingLine c)] ++
        (w.waitFor c).events runner (past ++ [.shown (waitingLine c)]) ++
        [.shown (readyLine c detail)] ++ front, ?_, ?_⟩
      · rw [Attempt.events_bind_of_ok hr, events_require, Attempt.events_bind_of_ok ho₁,
          events_announce, hevents]
        simp only [List.append_assoc]
      · simpa only [List.append_assoc] using herror

end Failing

/-! ### Runs -/

/-- **A message says that a workload was not ready in time**: what it was waited for, how long that
was allowed to take, how often it was looked at, and what was seen last. -/
inductive Condition.Missed (c : Condition) (attempts : Nat) (status : String) : String → Prop
  | intro {predicate timeout : String} (hpredicate : (c.predicate, predicate) ∈ predicateNames)
      (htimeout : c.timeout.Told timeout) :
      Missed c attempts status ("not " ++ predicate ++ " after " ++ timeout ++ " (" ++
        toString attempts ++ " checks, last status: " ++ status ++ ")")

theorem Condition.missed_timeoutFailure (c : Condition) (attempts : Nat) (status : String) :
    c.Missed attempts status (Waiter.timeoutFailure c attempts status).message :=
  .intro (mem_predicateNames c.predicate) c.timeout.told_describe

/-- **A run that was ended by a workload that was not ready in time**, given what the run starts
from, what happens in it and its failure: the last that happens is the wait, it takes exactly the
time that the failure tells, and the failure is that of the wait. -/
inductive Overdue (s : Settings) (w : Waiter) (runner : Runner) (past events : List Event)
    (f : Failure) : Prop
  | intro {c : Condition} {front : List Event} {attempts : Nat} {status : String}
      {configuration : Option Configuration} (hc : c ∈ s.workloads)
      (hevents : events = front ++ (w.waitFor c).events runner (past ++ front))
      (hresult : (w.waitFor c).result runner (past ++ front) =
        .ok (.timedOut attempts c.timeout status))
      (htime : timeOf ((w.waitFor c).events runner (past ++ front)) = c.timeout)
      (hmessage : c.Missed attempts status (Waiter.timeoutFailure c attempts status).message)
      (hf : f = (Waiter.timeoutFailure c attempts status).masked (Context.mask configuration)) :
      Overdue s w runner past events f

/-- A run waits for workloads of the settings only. -/
theorem readiness_subset_workloads {p : Pipeline} {s : Settings} {goal : Goal} {runner : Runner}
    {past : List Event} {v : Visit} (h : v ∈ p.visits (.ofGoal goal (catalog s)) runner past) :
    v.stage.readiness ⊆ s.workloads := by
  have hplanned := (p.stage_visits_prefix (.ofGoal goal (catalog s)) runner past).subset
    (List.mem_map_of_mem h)
  rw [readiness_of_mem_catalog (List.mem_filter.mp hplanned).1]
  cases v.stage.id with
  | baseApp => exact List.subset_append_left ..
  | agentSwarm => exact List.subset_append_right ..
  | _ => exact List.nil_subset _

section Runs

variable {files : Files} {s : Settings} {env : Environment} {goal : Goal} {r : Report}
  {runner : Runner} {past : List Event} {f : Failure}

/-- No work of a stage fails because a workload was not ready in time. -/
theorem not_mem_codes_timeout (id : StageId) : FailureCode.readinessTimeout ∉ id.codes := by
  cases id <;> decide

/-- **A run in which a workload was not ready in time ends with the wait for it.** -/
theorem overdue_of_run (hpace : Waiter.leastPause.nanos ≤ s.readiness.pollInterval.nanos)
    (hs : s.Usable)
    (h : (((pipeline files s env).run (.ofGoal goal (catalog s)) r).result runner past).2 =
      .error f) (hcode : f.code = 8001) :
    Overdue s (pipeline files s env).waiter runner past
      (((pipeline files s env).run (.ofGoal goal (catalog s)) r).events runner past) f := by
  obtain ⟨v, hv, hfailure, front, hevents, hpast⟩ := failed_of_run _ _ _ _ h
  obtain ⟨hinvoked, hconfiguration⟩ := provided_of_mem hv
  obtain ⟨f', hf', rfl⟩ := Visit.failure?_eq_some_iff.mp hfailure
  have hown : f'.code = FailureCode.readinessTimeout := hcode
  obtain ⟨o, ho, hawait⟩ := (among_or_await hinvoked hconfiguration hf').resolve_left
    fun h => not_mem_codes_timeout v.stage.id (hown ▸ h.code)
  obtain ⟨c, hc, waited, hwaits, hrequire⟩ := require_of_await hawait
  have hworkload : c ∈ s.workloads := readiness_subset_workloads hv hc
  -- a look that fails does so with another code
  rcases wait_of_require hrequire with hlook | ⟨attempts, elapsed, status, hwait, rfl⟩
  · have hamong := (failsOnly_waitFrom (fun c => failsOnly_ofCluster _ c) c 0 .zero).of_error hlook
    exact absurd (hcode ▸ hamong.code) (by decide)
  · have hprompt := prompt_ofCluster s.readiness.probeTimeout s.readiness.pollInterval
    have hwell := Waiter.wellBehaved_waitFor hprompt hpace (hs.timeouts c hworkload)
    obtain ⟨-, rfl, htime⟩ := (hwell runner _).timedOut attempts elapsed status hwait
    -- what happens before the wait: the stages before, the work, and the waits before
    have hfront : past ++ (front ++ .began v.stage.id :: v.deeds (pipeline files s env) runner ++
        waited) = v.begun ++ v.deeds (pipeline files s env) runner ++ waited := by
      rw [Visit.begun, ← hpast]
      simp
    refine .intro hworkload ?_ (hfront ▸ hwait) (hfront ▸ htime) (c.missed_timeoutFailure ..) rfl
    rw [hevents, Visit.events_of_invoked hinvoked, Visit.waits_of_outcome ho, hwaits, hfront]
    simp

end Runs

/-- **A run that its settings serve well**, given what it starts from, what happens in it and its
result. -/
structure Served (s : Settings) (p : Pipeline) (plan : Plan) (runner : Runner)
    (past events : List Event) (result : Except Failure Unit) : Prop where
  /-- Every wait for a workload behaves well, whatever has happened before, -/
  waits : ∀ c ∈ s.workloads, ∀ before, p.waiter.WellBehaved c
    ((p.waiter.waitFor c).events runner before) ((p.waiter.waitFor c).result runner before)
  /-- and nothing else is waited for. -/
  awaited : ∀ v ∈ p.visits plan runner past, v.stage.readiness ⊆ s.workloads
  /-- A failure says that a workload was not ready in time only behind exactly that time. -/
  overdue : ∀ f, result = .error f → f.code = 8001 → Overdue s p.waiter runner past events f
  /-- The images have references of their own, whatever the configuration, -/
  references : ∀ c : Configuration, (c.imageRefs s.images.workloads).Nodup
  /-- and none is pushed twice. -/
  pushes : (pushedOf (callsOf events)).Nodup

/-- What is accepted waits long enough between two looks. -/
theorem Settings.Usable.pace {s : Settings} (h : s.Usable)
    (hmillis : nanosPerMilli ∣ s.readiness.pollInterval.nanos) :
    Waiter.leastPause.nanos ≤ s.readiness.pollInterval.nanos :=
  Nat.le_of_dvd h.interval hmillis

/-- **Settings are accepted exactly if they are usable, and serve every run well.** -/
theorem served_of_accepted :
    (∀ text s, (Toml.parse? text).bind Settings.decode? = some s →
      (Settings.ofText text = .ok s ↔ s.Usable) ∧
        ∀ f, Settings.ofText text = .error f ↔ s.Objection f) ∧
    ∀ s : Settings, (∃ text, Settings.ofText text = .ok s) ∨ s = .builtIn →
      nanosPerMilli ∣ s.readiness.pollInterval.nanos →
      ∀ (files : Files) (env : Environment) (goal : Goal) (command : String) (began : Timestamp)
        (runner : Runner) (past : List Event),
        let p := pipeline files s env
        let plan := Plan.ofGoal goal (catalog s)
        let run := p.run plan (.begin command began)
        Served s p plan runner past (run.events runner past) (run.result runner past).2 := by
  refine ⟨fun text s hs => ⟨Settings.ofText_eq_ok_iff hs, fun f => Settings.ofText_eq_error_iff hs⟩,
    ?_⟩
  intro s haccepted hmillis files env goal command began runner past p plan run
  have hs : s.Usable := by
    rcases haccepted with ⟨text, htext⟩ | rfl
    · exact Settings.usable_of_ofText htext
    · exact Settings.usable_builtIn
  have hpace := hs.pace hmillis
  exact {
    waits := fun c hc =>
      Waiter.wellBehaved_waitFor (prompt_ofCluster _ _) hpace (hs.timeouts c hc) runner
    awaited := fun _ => readiness_subset_workloads
    overdue := fun f => overdue_of_run hpace hs
    references := fun c => c.nodup_imageRefs hs.images
    pushes := nodup_pushedOf_run files env goal _ runner past hs.images }

/-! ### A workload that is never ready -/

/-- Settings for a base application of one workload, which may take two seconds. -/
def hastyText : String :=
  "[base_app]\nextras = []\nmanifests = \"base\"\n\n" ++
  "[[base_app.workloads]]\nkind = \"deployment\"\nname = \"db\"\ntimeout = \"2s\"\n"

/-- What the text spells. -/
def hastySettings : Settings :=
  { Settings.builtIn with
    baseApp := ⟨[], "base", [⟨.deployment, "db", "default", .available, .ofSeconds 2⟩]⟩ }

theorem decode_hastyText : (Toml.parse? hastyText).bind Settings.decode? = some hastySettings := by
  decide +kernel

/-- A host where every command succeeds, and nothing is said of any workload. -/
def silentHost : Runner := fun _ _ => .ok ⟨.success, "\x7b\x7d", "", .zero⟩

def hastyFiles : Files := ⟨[["base"]], []⟩

def hastyEnvironment : Environment :=
  .ofList [(Configuration.projectIdName, "demo"), (Configuration.apiKeyName, "key")]

/-- A run for the base application. -/
def hastyRun : Session (Report × Except Failure Unit) :=
  (pipeline hastyFiles hastySettings hastyEnvironment).run
    (.ofGoal .deployBase (catalog hastySettings)) (.begin "deploy-boa" (.afterEpoch .zero))

/-- **A workload that is never ready** ends the run, two seconds after the wait for it began. -/
theorem served_hastySettings :
    let p := pipeline hastyFiles hastySettings hastyEnvironment
    (Toml.parse? hastyText).bind Settings.decode? = some hastySettings ∧
      Settings.ofText hastyText = .ok hastySettings ∧
      nanosPerMilli ∣ hastySettings.readiness.pollInterval.nanos ∧
      ∃ f, (hastyRun.result silentHost []).2 = .error f ∧ f.code = 8001 ∧
        Overdue hastySettings p.waiter silentHost [] (hastyRun.events silentHost []) f := by
  intro p
  obtain ⟨haccepts, hserves⟩ := served_of_accepted
  have husable : hastySettings.Usable := Settings.check_eq_ok_iff.mp rfl
  have haccepted := (haccepts hastyText hastySettings decode_hastyText).1.mpr husable
  have hwhole : nanosPerMilli ∣ hastySettings.readiness.pollInterval.nanos := by decide
  have hcode : (match (hastyRun.result silentHost []).2 with
      | .ok _ => 0
      | .error f => f.code) = (8001 : UInt16) := by decide +kernel
  refine ⟨decode_hastyText, haccepted, hwhole, ?_⟩
  cases hresult : (hastyRun.result silentHost []).2 with
  | ok u =>
    rw [hresult] at hcode
    cases hcode
  | error f =>
    rw [hresult] at hcode
    have hserved := hserves hastySettings (.inl ⟨hastyText, haccepted⟩) hwhole hastyFiles
      hastyEnvironment .deployBase "deploy-boa" (.afterEpoch .zero) silentHost []
    exact ⟨f, rfl, hcode, hserved.overdue f hresult hcode⟩

end Rollout
