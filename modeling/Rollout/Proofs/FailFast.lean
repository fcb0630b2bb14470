import Rollout.Proofs.Creation
import Rollout.Proofs.Discipline.Run
import Rollout.Proofs.Invocations
import Rollout.Stages.Actions

/-!
# Nothing goes on behind a failure

Whatever answers the commands of a run, the run goes on behind a command only if the command
succeeded or its failure is one of four that are expected: a lookup of a tool on a host without the
program that looks (the tool itself is then started, at once), that start of the tool, a cluster
that is not there yet, and something to be created that is there already.

A history in which every command was got past is spelt by a small grammar, `Rollout.Smooth`; its one
rule for two commands is the lookup with the start of the tool behind it. A history that a failure
ends is a smooth one with one more command, or with a lookup and one more command
(`Rollout.CutShort`). The two make a discipline, `Rollout.smooth`, and it is enough that each step
of a stage obeys it: `Rollout.obeys_of_step`. What the grammar says of a single place in the history
is `Rollout.GoesOn`, and the main statement, `Rollout.failFast_run`, is given in those terms.
-/

namespace Rollout

open Tools

/-! ### The grammar of smooth histories -/

/-- The commands that create something. -/
inductive Creates : Command → Prop
  | repository (project location repository : String) :
      Creates (Gcloud.repositoryCreation project location repository)
  | cluster (project location name : String) (privateNodes : Bool) (channel : Option String) :
      Creates (Gcloud.clusterCreation project location name privateNodes channel)
  | namespace (space : String) : Creates (kubectl ["create", "namespace", space])

/-- A command that a run gets past, with its answer. -/
inductive Tolerated : Command → Answer → Prop
  /-- The command succeeded. -/
  | success {c : Command} {o : Output} (h : o.status = .success) : Tolerated c (.ok o)
  /-- The cluster is not there. -/
  | absent (project location name : String) {o : Output} (h : o.status ≠ .success)
      (habsent : Gcloud.TellsAbsence o.stderr) :
      Tolerated (Gcloud.clusterQuery project location name) (.ok o)
  /-- What was to be created is there already. -/
  | duplicate {c : Command} {o : Output} {n : Int32} (hc : Creates c) (h : o.status = .error n)
      (hdup : Policy.Spelled o.stderr) : Tolerated c (.ok o)

theorem creates_createRepository (project location repository : String) :
    Creates (Gcloud.createRepositoryCommand project location repository) := by
  rw [Gcloud.createRepositoryCommand_eq]
  exact .repository project location repository

theorem creates_createCluster (name : Gcloud.ClusterName) (privateNodes : Bool)
    (channel : Option String) : Creates (Gcloud.createClusterCommand name privateNodes channel) := by
  rw [Gcloud.createClusterCommand_eq]
  exact .cluster name.project name.location name.name privateNodes channel

theorem creates_createNamespace (space : String) : Creates (Kubectl.createNamespaceCommand space) :=
  .namespace space

/-- The answer to a command whose program is not there. -/
def notThere (name : String) : Answer := .error (.commandNotFound name)

/-- **A history in which every command was got past.** -/
inductive Smooth : List Call → Prop
  | nil : Smooth []
  | call {c : Command} {a : Answer} {rest : List Call} (h : Tolerated c a) (hrest : Smooth rest) :
      Smooth ((c, a) :: rest)
  /-- A lookup without the program that looks, and the start of the tool in its place. -/
  | fallback (tool name : String) (o : Output) {rest : List Call} (hrest : Smooth rest) :
      Smooth ((whichCommand tool, notThere name) :: (versionCommand tool, .ok o) :: rest)

theorem Smooth.append {before after : List Call} (hb : Smooth before) (ha : Smooth after) :
    Smooth (before ++ after) := by
  induction hb with
  | nil => exact ha
  | call h _ ih => exact .call h ih
  | fallback tool name o _ ih => exact .fallback tool name o ih

/-- The command at which a history ends, got past or not; a lookup counts with the start of the
tool. -/
inductive Ending : List Call → Prop
  | call (c : Command) (a : Answer) : Ending [(c, a)]
  | fallback (tool name : String) (a : Answer) :
      Ending [(whichCommand tool, notThere name), (versionCommand tool, a)]

/-- **A history that a failure may have ended**: everything before its end was got past. -/
def CutShort (calls : List Call) : Prop :=
  Smooth calls ∨ ∃ before last, calls = before ++ last ∧ Smooth before ∧ Ending last

/-- The discipline of smooth histories. -/
def smooth : Discipline where
  Whole := Smooth
  Cut := CutShort
  whole_nil := .nil
  whole_append := Smooth.append
  cut_of_whole := .inl
  cut_append := by
    intro before after hb ha
    rcases ha with ha | ⟨before', last, rfl, hb', hlast⟩
    · exact .inl (hb.append ha)
    · exact .inr ⟨before ++ before', last, (List.append_assoc ..).symm, hb.append hb', hlast⟩

/-! ### What the grammar says of one place -/

/-- **The run may go on behind a call** that has the given calls before and behind it. -/
inductive GoesOn : List Call → Call → List Call → Prop
  | tolerated (before : List Call) {c : Command} {a : Answer} (after : List Call)
      (h : Tolerated c a) : GoesOn before (c, a) after
  /-- The program that looks for a tool is not there, and the tool is started next. -/
  | lookup (before : List Call) (tool name : String) (a : Answer) (later : List Call) :
      GoesOn before (whichCommand tool, notThere name) ((versionCommand tool, a) :: later)
  /-- A tool that is started in place of its lookup may say what it likes. -/
  | start (earlier : List Call) (tool name : String) (o : Output) (after : List Call) :
      GoesOn (earlier ++ [(whichCommand tool, notThere name)]) (versionCommand tool, .ok o) after

/-- **A run that stops at the first failure.** Behind every call but the last the run may go on, and
behind the last as well when the run ends without a failure. -/
structure FailFast (calls : List Call) (result : Except Failure Unit) : Prop where
  goesOn : ∀ before call after, calls = before ++ call :: after → after ≠ [] →
    GoesOn before call after
  last : result = .ok () → ∀ before call, calls = before ++ [call] → GoesOn before call []

/-- More calls before the ones known and more behind them change nothing. -/
theorem GoesOn.extend {before after : List Call} {call : Call} (h : GoesOn before call after)
    (earlier later : List Call) : GoesOn (earlier ++ before) call (after ++ later) := by
  cases h with
  | tolerated _ _ h => exact .tolerated _ _ h
  | lookup _ tool name a rest => exact .lookup _ tool name a (rest ++ later)
  | start front tool name o _ =>
    rw [← List.append_assoc]
    exact .start (earlier ++ front) tool name o _

/-- A place in two lists, one behind the other, lies in the first or in the second. -/
theorem split_of_append {α : Type} {xs ys before after : List α} {x : α}
    (h : xs ++ ys = before ++ x :: after) :
    (∃ mid, xs = before ++ x :: mid ∧ after = mid ++ ys) ∨
      ∃ mid, before = xs ++ mid ∧ ys = mid ++ x :: after := by
  rcases List.append_eq_append_iff.mp h with ⟨mid, hbefore, hys⟩ | ⟨mid, hxs, hmid⟩
  · exact .inr ⟨mid, hbefore, hys⟩
  · rcases mid with _ | ⟨m, mid⟩
    · exact .inr ⟨[], by simpa using hxs.symm, hmid.symm⟩
    · obtain ⟨rfl, rfl⟩ := List.cons.inj hmid
      exact .inl ⟨mid, hxs, rfl⟩

theorem Smooth.goesOn {calls : List Call} (h : Smooth calls) :
    ∀ before call after, calls = before ++ call :: after → GoesOn before call after := by
  induction h with
  | nil =>
    intro before call after hsplit
    simp at hsplit
  | call htol hrest ih =>
    intro before call after hsplit
    rcases before with _ | ⟨b, before⟩
    · cases hsplit
      exact .tolerated _ _ htol
    · obtain ⟨-, htail⟩ := List.cons.inj hsplit
      simpa using (ih before call after htail).extend [b] []
  | @fallback tool name o rest hrest ih =>
    intro before call after hsplit
    rcases before with _ | ⟨b, _ | ⟨b', before⟩⟩
    · -- the lookup itself: the start of the tool is what comes next
      cases hsplit
      exact .lookup [] tool name _ rest
    · cases hsplit
      exact .start [] tool name o _
    · obtain ⟨-, htail⟩ := List.cons.inj hsplit
      obtain ⟨-, htail⟩ := List.cons.inj htail
      simpa using (ih before call after htail).extend [b, b'] []

theorem Ending.goesOn {last : List Call} (h : Ending last) {before after : List Call} {call : Call}
    (hsplit : last = before ++ call :: after) (hafter : after ≠ []) : GoesOn before call after := by
  cases h with
  | call c a =>
    rcases before with _ | ⟨b, before⟩
    · cases hsplit
      exact absurd rfl hafter
    · simp at hsplit
  | fallback tool name a =>
    rcases before with _ | ⟨b, _ | ⟨b', before⟩⟩
    · cases hsplit
      exact .lookup [] tool name a []
    · cases hsplit
      exact absurd rfl hafter
    · simp at hsplit

theorem CutShort.goesOn {calls : List Call} (h : CutShort calls) :
    ∀ before call after, calls = before ++ call :: after → after ≠ [] →
      GoesOn before call after := by
  intro before call after hsplit hafter
  rcases h with h | ⟨front, last, rfl, hfront, hlast⟩
  · exact h.goesOn before call after hsplit
  · -- the place lies before the end, or it is the lookup with which the end begins
    rcases split_of_append hsplit with ⟨mid, hfr, rfl⟩ | ⟨mid, rfl, hla⟩
    · simpa using (hfront.goesOn before call mid hfr).extend [] last
    · simpa using (hlast.goesOn hla hafter).extend front []

/-! ### The tools -/

variable {α : Type}

/-- **A command whose output is judged at once** obeys the discipline if the judgement lets only
what is tolerated pass. Every command of a run but the two of a lookup is of this form. -/
theorem obeys_run_bind {c : Command} {f : Output → Attempt ProcessError α}
    (hsilent : ∀ o runner past, callsOf ((f o).events runner past) = [])
    (hjudge : ∀ o runner past x, (f o).result runner past = .ok x → Tolerated c (.ok o)) :
    smooth.Obeys (Attempt.run c >>= f) := by
  intro runner past
  -- one call is always an end, so all that is left to show is that it was got past
  have hone (a : Answer) : CutShort [(c, a)] := .inr ⟨[], _, rfl, .nil, .call c a⟩
  cases ha : (Attempt.run c).result runner past with
  | error e =>
    rw [Attempt.result_bind_of_error ha, Attempt.events_bind_of_error ha]
    refine ⟨hone _, fun x hx => ?_⟩
    cases hx
  | ok o =>
    rw [Attempt.result_bind_of_ok ha, Attempt.events_bind_of_ok ha, callsOf_append, hsilent,
      List.append_nil]
    rw [Attempt.result_run] at ha
    have hcalls : callsOf ((Attempt.run c).events runner past) = [(c, .ok o)] := by
      rw [Attempt.events_run, ha]
      rfl
    rw [hcalls]
    exact ⟨hone _, fun x hx _ => .call (hjudge _ _ _ _ hx) .nil⟩

/-- A command that has to succeed. -/
theorem obeys_runChecked (c : Command) : smooth.Obeys (Attempt.runChecked c) := by
  refine obeys_run_bind (fun _ _ _ => rfl) fun o runner past x h => ?_
  rw [Attempt.result_ofExcept, Output.success?_eq_ok_iff] at h
  exact .success h.1

/-- What a policy lets pass has succeeded or is a duplicate. -/
theorem tolerated_of_resolve {policy : Policy} {label : String} {c : Command} {o : Output}
    {x : Creation} (hc : Creates c) (h : policy.resolve label o = .ok x) : Tolerated c (.ok o) := by
  cases (Policy.resolve_eq_ok_iff label).mp h with
  | created hs => exact .success hs
  | absorbed _ hn hdup => exact .duplicate hc hn hdup

/-- A command that creates something, judged by a policy. -/
theorem obeys_created {c : Command} (hc : Creates c) (policy : Policy) (label : String) :
    smooth.Obeys (Stages.Provisioning.created policy label (Attempt.run c)) :=
  obeys_run_bind (fun _ _ _ => rfl) fun _ _ _ _ h => tolerated_of_resolve hc h

/-- A query of a cluster may find none. -/
theorem obeys_clusterStatus (name : Gcloud.ClusterName) :
    smooth.Obeys (Gcloud.clusterStatus name) := by
  refine obeys_run_bind (fun o runner past => ?_) fun o runner past x h => ?_
  · split
    · rfl
    · split
      · rfl
      · rw [Attempt.events_bind]
        split <;> rfl
  · split at h
    · rename_i hs
      exact .success (of_decide_eq_true hs)
    · rename_i hs
      have hne : o.status ≠ .success := fun heq => hs (decide_eq_true heq)
      split at h
      · rw [Gcloud.describeClusterCommand_eq]
        exact .absent name.project name.location name.name hne (Gcloud.saysNotFound_iff.mp ‹_›)
      · -- any other failure of the query is reported as such
        rw [Attempt.result_bind, Attempt.result_ofExcept] at h
        split at h
        · rename_i p hp
          exact absurd ((Output.success?_eq_ok_iff ..).mp hp).1 hne
        · cases h

/-- What the start of a tool says of it. -/
def started : Answer → Except ProcessError Bool
  | .ok _ => .ok true
  | .error (.commandNotFound _) => .ok false
  | .error e => .error e

/-- **The two ways of a lookup**: either the program that looks answers, or it is not there and the
tool is started in its place. -/
theorem which_cases (tool : String) (runner : Runner) (past : List Event) :
    (∃ a, (∀ name, a ≠ notThere name) ∧
      (which tool).events runner past = [.ran (whichCommand tool) a] ∧
      (which tool).result runner past = a.map isFound) ∨
    ∃ name a, (which tool).events runner past =
        [.ran (whichCommand tool) (notThere name), .ran (versionCommand tool) a] ∧
      (which tool).result runner past = started a := by
  simp only [Attempt.result, Attempt.events, which, ExceptT.run_mk, Session.events_bind,
    Session.result_bind, Session.result_run, Session.events_run]
  generalize runner (commandsOf past) (whichCommand tool) = a
  rcases a with e | o
  · cases e with
    | commandNotFound name =>
      -- what comes next is the start of the tool, whatever it answers
      refine .inr ⟨name, runner (commandsOf (past ++ [.ran (whichCommand tool) (notThere name)]))
        (versionCommand tool), ?_, ?_⟩
      · simp only [Session.events_bind, Session.events_run]
        split <;> rfl
      · simp only [Session.result_bind, Session.result_run]
        split <;> simp_all [started, notThere]
    | _ => exact .inl ⟨.error _, by simp [notThere], rfl, rfl⟩
  · exact .inl ⟨.ok o, by simp [notThere], rfl, rfl⟩

/-- A lookup of a tool gets through where the tool is found. -/
theorem obeys_which (tool : String) : smooth.ObeysWhen (· = true) (which tool) := by
  intro runner past
  rcases which_cases tool runner past with ⟨a, -, hevents, hresult⟩ | ⟨name, a, hevents, hresult⟩
  · rw [hevents, hresult]
    refine ⟨.inr ⟨[], _, rfl, .nil, .call _ a⟩, fun found hfound htrue => ?_⟩
    rcases a with e | o
    · cases hfound
    · have hf : isFound o = true := (Except.ok.inj hfound).trans htrue
      exact .call (.success (of_decide_eq_true (Bool.and_eq_true_iff.mp hf).1)) .nil
  · rw [hevents, hresult]
    refine ⟨.inr ⟨[], _, rfl, .nil, .fallback tool name a⟩, fun found hfound htrue => ?_⟩
    rcases a with e | o
    · subst htrue
      cases e <;> cases hfound
    · exact .fallback tool name o .nil

/-- A tool that has to be there. -/
theorem obeys_findTool (tool : String) : smooth.Obeys (Stages.Prerequisites.findTool tool) := by
  refine ((obeys_which tool).mapFailure _).bind_of_through (fun found hfound => ?_)
    fun found hfound => ?_
  · rw [if_pos hfound]
    exact .pure ()
  · exact ⟨_, if_neg hfound⟩

/-- **Every step of a stage stops at the right answer.** -/
theorem obeys_of_step {ε : Type} {id : StageId} {a : Attempt ε α} (h : Step id ε α a) :
    smooth.Obeys a := by
  cases h with
  | findTool tool => exact obeys_findTool tool
  | createRepository => exact obeys_created (creates_createRepository ..) _ _
  | clusterStatus name => exact obeys_clusterStatus name
  | createCluster => exact obeys_created (creates_createCluster ..) _ _
  | createNamespace => exact obeys_created (creates_createNamespace _) _ _
  | authList => exact obeys_runChecked _
  | setProject => exact obeys_runChecked _
  | enableServices => exact obeys_runChecked _
  | credentials => exact obeys_runChecked _
  | configureDocker => exact obeys_runChecked _
  | build => exact obeys_runChecked _
  | push => exact obeys_runChecked _
  | applyPath => exact obeys_runChecked _
  | applyDocument => exact obeys_runChecked _

theorem obeys_of_look {ε : Type} {a : Attempt ε α} (h : Look ε α a) : smooth.Obeys a := by
  cases h with
  | get => exact obeys_runChecked _

/-! ### The run -/

open Stages

theorem keeps_plain (ctx : Context) {a : Attempt Failure Outcome} (h : smooth.Obeys a) :
    smooth.Keeps Discipline.Done (plain ctx a) := by
  refine h.keeps.bind (fun e _ => .of_silent fun _ _ => rfl) fun e hnot runner past => ⟨rfl, ?_⟩
  rintro ⟨o, ho⟩
  exact hnot ⟨o, ho⟩

theorem keeps_validate (env : Environment) (ctx : Context) :
    smooth.Keeps Discipline.Done (validate env ctx) := by
  unfold validate
  split
  · exact .of_silent fun _ _ => rfl
  · exact .of_silent fun _ _ => rfl

theorem keeps_actions (files : Files) (settings : Settings) (env : Environment) (stage : Stage)
    (ctx : Context) : smooth.Keeps Discipline.Done (actions files settings env stage ctx) := by
  rcases actions_cases files settings env stage ctx with h | ⟨a, ha, h⟩
  · rw [h]
    exact keeps_validate env ctx
  · rw [h]
    exact keeps_plain ctx (Discipline.obeys_of_made obeys_of_step ha)

/-- **A run stops at the first failure**, whatever answers its commands and whatever it starts
from. -/
theorem failFast_run (files : Files) (settings : Settings) (env : Environment) (goal : Goal)
    (r : Report) (runner : Runner) (past : List Event) :
    let run := (pipeline files settings env).run (.ofGoal goal (catalog settings)) r
    FailFast (callsOf (run.events runner past)) (run.result runner past).2 := by
  intro run
  have hawait (conditions : List Condition) (o : Outcome) :
      smooth.Obeys (Pipeline.await (pipeline files settings env).waiter conditions o) :=
    Discipline.obeys_of_made obeys_of_look (made_await (made_ofCluster _) conditions o)
  obtain ⟨hcut, hwhole⟩ := Discipline.keeps_run (p := pipeline files settings env)
    (keeps_actions files settings env) hawait (.ofGoal goal (catalog settings)) r runner past
  refine ⟨hcut.goesOn, fun hok before call hsplit => ?_⟩
  exact (hwhole hok).goesOn before call [] hsplit

end Rollout
