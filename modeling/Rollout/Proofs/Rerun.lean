import Rollout.Proofs.Coupling
import Rollout.Proofs.Creation

/-!
# Deployments that are run again

To run a deployment again is to run it where some of what it creates is there already. Two runners
make a *rerun* (`Rollout.Rerun`) when the second answers as the first does, but for some commands
that create something: where the first lets them succeed, the second says that there is something
already. This file is the logic of such pairs; what it says of deployments is in
`Rollout.Proofs.Rerun.Run`.

Two pieces of a run *echo* each other (`Rollout.Rerun.Echoes`) when, wherever the commands before
were the same, the calls of the one replay those of the other, and their results are related. The
relation may know which creations were *absorbed*, that is, told apart by the two runners: they are
what the logic is graded by, and composition appends them.

Almost everything in a deployment is *steady* (`Rollout.Rerun.Steady`): it absorbs nothing and comes
to the same. The exception is a creation that is judged by a policy
(`Rollout.Rerun.returns_created`).
-/

namespace Rollout

/-! ### Creations -/

/-- How the commands that create something begin. -/
def creations : List (String × List String) :=
  [("gcloud", ["artifacts", "repositories", "create"]),
    ("gcloud", ["container", "clusters", "create-auto"]),
    ("kubectl", ["create", "namespace"])]

/-- Whether a command creates something. -/
def Command.isCreation (c : Command) : Bool :=
  creations.any fun (program, args) => c.program == program && args.isPrefixOf c.args

/-- **A creation that the second runner tells to be there already**, where the first lets it
succeed. -/
inductive Absorbed (c : Command) : Answer → Answer → Prop
  | intro {o o' : Output} {n : Int32} (hc : c.isCreation = true) (h : o.status = .success)
      (h' : o'.status = .error n) (hdup : Policy.saysDuplicate o'.stderr = true) :
      Absorbed c (.ok o) (.ok o')

/-- **The second calls replay the first**: they are the same, but for some creations that were
absorbed. -/
inductive Replays : List Command → List Call → List Call → Prop
  | nil : Replays [] [] []
  | same {absorbed : List Command} {calls calls' : List Call} (call : Call)
      (hrest : Replays absorbed calls calls') : Replays absorbed (call :: calls) (call :: calls')
  | absorbed {absorbed : List Command} {calls calls' : List Call} {c : Command} {a a' : Answer}
      (h : Absorbed c a a') (hrest : Replays absorbed calls calls') :
      Replays (c :: absorbed) ((c, a) :: calls) ((c, a') :: calls')

theorem Absorbed.isCreation {c : Command} {a a' : Answer} (h : Absorbed c a a') :
    c.isCreation = true := by
  cases h with
  | intro hc _ _ _ => exact hc

namespace Replays

variable {absorbed later : List Command} {calls calls' after after' : List Call}

theorem append (h : Replays absorbed calls calls') (hafter : Replays later after after') :
    Replays (absorbed ++ later) (calls ++ after) (calls' ++ after') := by
  induction h with
  | nil => exact hafter
  | same call _ ih => exact .same call ih
  | absorbed h _ ih => exact .absorbed h ih

theorem map_fst_eq (h : Replays absorbed calls calls') :
    calls'.map Prod.fst = calls.map Prod.fst := by
  induction h with
  | nil => rfl
  | same call _ ih => exact congrArg (call.1 :: ·) ih
  | @absorbed _ _ _ c _ _ _ _ ih => exact congrArg (c :: ·) ih

/-- The commands are the same, absorbed or not. -/
theorem commandsOf_eq {events events' : List Event}
    (h : Replays absorbed (callsOf events) (callsOf events')) :
    commandsOf events' = commandsOf events := by
  rw [← map_fst_callsOf, h.map_fst_eq, map_fst_callsOf]

end Replays

/-- **Two runners, the second of which finds things there that the first could create.** -/
structure Rerun where
  first : Runner
  second : Runner
  answers : ∀ history c, second history c = first history c ∨
    Absorbed c (first history c) (second history c)

namespace Rerun

variable {k : Rerun} {α α' β β' ε ε' : Type}

/-! ### Sessions -/

variable (k) in
/-- **Two sessions echo each other**: wherever the same commands were run before, the calls of the
second replay those of the first, and the results are related, given what was absorbed. -/
def Echoes (R : List Command → α → β → Prop) (s : Session α) (t : Session β) : Prop :=
  ∀ past past', commandsOf past' = commandsOf past →
    ∃ absorbed, Replays absorbed (callsOf (s.events k.first past))
        (callsOf (t.events k.second past')) ∧
      R absorbed (s.result k.first past) (t.result k.second past')

section Rules

variable {R : List Command → α → β → Prop} {R' : List Command → α' → β' → Prop}

theorem Echoes.mono {Q : List Command → α → β → Prop} {s : Session α} {t : Session β}
    (h : k.Echoes R s t) (hR : ∀ absorbed x y, R absorbed x y → Q absorbed x y) :
    k.Echoes Q s t := by
  intro past past' hpast
  obtain ⟨absorbed, hcalls, hresult⟩ := h past past' hpast
  exact ⟨absorbed, hcalls, hR _ _ _ hresult⟩

/-- Whatever runs no command, and comes to related results. -/
theorem Echoes.of_silent {s : Session α} {t : Session β}
    (hs : ∀ past, callsOf (s.events k.first past) = [])
    (ht : ∀ past, callsOf (t.events k.second past) = [])
    (h : ∀ past past', R [] (s.result k.first past) (t.result k.second past')) :
    k.Echoes R s t := by
  intro past past' _
  rw [hs, ht]
  exact ⟨[], .nil, h past past'⟩

theorem Echoes.pure {x : α} {y : β} (h : R [] x y) : k.Echoes R (pure x) (pure y) :=
  .of_silent (fun _ => rfl) (fun _ => rfl) fun _ _ => h

/-- **Composition.** The commands behind the first parts are the same, since a replay has the same
commands; what both parts absorb is put together. -/
theorem Echoes.bind {s : Session α} {t : Session β} {f : α → Session α'} {g : β → Session β'}
    (hs : k.Echoes R s t)
    (hf : ∀ absorbed x y, R absorbed x y →
      k.Echoes (fun later => R' (absorbed ++ later)) (f x) (g y)) :
    k.Echoes R' (s >>= f) (t >>= g) := by
  intro past past' hpast
  obtain ⟨absorbed, hcalls, hresult⟩ := hs past past' hpast
  have hcommands : commandsOf (past' ++ t.events k.second past') =
      commandsOf (past ++ s.events k.first past) := by
    rw [commandsOf_append, commandsOf_append, hpast, hcalls.commandsOf_eq]
  obtain ⟨later, hcalls', hresult'⟩ := hf absorbed _ _ hresult _ _ hcommands
  refine ⟨absorbed ++ later, ?_, hresult'⟩
  rw [Session.events_bind, Session.events_bind, callsOf_append, callsOf_append]
  exact hcalls.append hcalls'

end Rules

/-- **A command that creates nothing** is answered alike. -/
theorem echoes_run {c : Command} (hc : c.isCreation = false) :
    k.Echoes (fun absorbed x y => absorbed = [] ∧ y = x) (Session.run c) (Session.run c) := by
  intro past past' hpast
  have hanswer : k.second (commandsOf past') c = k.first (commandsOf past) c := by
    rw [hpast]
    rcases k.answers (commandsOf past) c with h | h
    · exact h
    · rw [h.isCreation] at hc
      cases hc
  rw [Session.events_run, Session.events_run, hanswer]
  exact ⟨[], .same _ .nil, rfl, hanswer⟩

/-! ### Attempts -/

variable (k) in
/-- **Two attempts echo each other**: they fail alike, or come to values that are related. -/
def Returns (R : List Command → α → β → Prop) (a : Attempt ε α) (b : Attempt ε β) : Prop :=
  k.Echoes (fun absorbed => Agree Eq (R absorbed)) (ExceptT.run a) (ExceptT.run b)

section Rules

variable {R : List Command → α → β → Prop} {R' : List Command → α' → β' → Prop}

theorem Returns.pure {x : α} {y : β} (h : R [] x y) :
    k.Returns R (pure x : Attempt ε α) (pure y) :=
  Echoes.pure (.ok h)

/-- Composition. Behind a failure nothing is run in either attempt, so that what was absorbed before
it is all there is. -/
theorem Returns.bind {a : Attempt ε α} {b : Attempt ε β} {f : α → Attempt ε α'}
    {g : β → Attempt ε β'} (ha : k.Returns R a b)
    (hf : ∀ absorbed x y, R absorbed x y →
      k.Returns (fun later => R' (absorbed ++ later)) (f x) (g y)) :
    k.Returns R' (a >>= f) (b >>= g) := by
  change k.Echoes _ (ExceptT.run a >>= ExceptT.bindCont f) (ExceptT.run b >>= ExceptT.bindCont g)
  refine Echoes.bind ha fun absorbed x y hxy => ?_
  cases hxy with
  | ok h => exact hf _ _ _ h
  | error h => exact .pure (.error h)

theorem Returns.after_display {l l' : Line} {f : Unit → Attempt ε α} {g : Unit → Attempt ε β}
    (hf : k.Returns R (f ()) (g ())) :
    k.Returns R (Attempt.display l >>= f) (Attempt.display l' >>= g) := by
  have hdisplay : k.Returns (fun absorbed _ _ => absorbed = [])
      (Attempt.display l : Attempt ε Unit) (Attempt.display l') :=
    .of_silent (fun _ => rfl) (fun _ => rfl) fun _ _ => .ok rfl
  refine Returns.bind hdisplay fun absorbed _ _ h => ?_
  subst h
  exact hf

theorem Returns.mapFailure {a : Attempt ε α} {b : Attempt ε β} (ha : k.Returns R a b)
    (f : ε → ε') : k.Returns R (Attempt.mapFailure f a) (Attempt.mapFailure f b) := by
  refine Echoes.bind ha fun absorbed x y hxy => .pure ?_
  rw [List.append_nil]
  cases hxy with
  | ok h => exact .ok h
  | error h => exact .error (congrArg f h)

end Rules

/-! ### What is steady -/

variable (k) in
/-- **An attempt that absorbs nothing**, and comes to the same. -/
abbrev Steady (a : Attempt ε α) : Prop := k.Returns (fun absorbed x y => absorbed = [] ∧ y = x) a a

/-- An attempt behind what is steady. -/
theorem Steady.returns {R : List Command → α' → β' → Prop} {a : Attempt ε α}
    {f : α → Attempt ε α'} {g : α → Attempt ε β'} (ha : k.Steady a)
    (hf : ∀ x, k.Returns R (f x) (g x)) : k.Returns R (a >>= f) (a >>= g) := by
  refine Returns.bind ha fun absorbed x y h => ?_
  obtain ⟨rfl, rfl⟩ := h
  exact hf y

/-- Steady attempts behind an attempt that may absorb something: nothing is added. -/
theorem Returns.steady {R : List Command → α → β → Prop} {R' : List Command → α' → β' → Prop}
    {a : Attempt ε α} {b : Attempt ε β} {f : α → Attempt ε α'} {g : β → Attempt ε β'}
    (ha : k.Returns R a b)
    (hf : ∀ absorbed x y, R absorbed x y →
      k.Returns (fun later x y => later = [] ∧ R' absorbed x y) (f x) (g y)) :
    k.Returns R' (a >>= f) (b >>= g) := by
  refine Returns.bind ha fun absorbed x y h => (hf absorbed x y h).mono fun later x y hxy => ?_
  cases hxy with
  | ok h =>
    obtain ⟨rfl, h⟩ := h
    refine .ok ?_
    show R' (absorbed ++ []) _ _
    rwa [List.append_nil]
  | error h => exact .error h

/-- A result that is the same in both runs. -/
theorem agree_self (x : Except ε α) :
    Agree Eq (fun x y => ([] : List Command) = [] ∧ y = x) x x :=
  .refl Eq.refl (fun _ => ⟨rfl, rfl⟩) x

theorem steady_ofExcept (e : Except ε α) : k.Steady (Attempt.ofExcept e) :=
  Echoes.pure (agree_self e)

/-- Whatever tells nothing to a runner. -/
theorem steady_always {s : Session Unit}
    (hs : ∀ runner past, callsOf (s.events runner past) = []) :
    k.Steady (Attempt.always s : Attempt ε Unit) := by
  refine .of_silent (fun past => ?_) (fun past => ?_) fun _ _ => .ok ⟨rfl, rfl⟩
  · exact (congrArg callsOf (Attempt.events_always s)).trans (hs k.first past)
  · exact (congrArg callsOf (Attempt.events_always s)).trans (hs k.second past)

/-- **What is made of steady steps is steady.** -/
theorem steady_of_made {S : (ε α : Type) → Attempt ε α → Prop}
    (hstep : ∀ {ε α} {a : Attempt ε α}, S ε α a → k.Steady a) {a : Attempt ε α} (h : a.Made S) :
    k.Steady a := by
  induction h with
  | step h => exact hstep h
  | ofExcept e => exact steady_ofExcept e
  | display l => exact steady_always fun _ _ => rfl
  | sleep pause => exact steady_always fun _ _ => rfl
  | check c => exact steady_always fun _ _ => rfl
  | bind _ _ iha ihf => exact iha.returns ihf
  | mapFailure f _ ih => exact ih.mapFailure f

/-! ### Steps -/

/-- The commands that create nothing. -/
abbrev Harmless (c : Command) : Prop := c.isCreation = false

theorem steady_ask {a : Attempt ε α} (h : Asks Harmless ε α a) : k.Steady a := by
  cases h with
  | ask hc =>
    refine Echoes.bind (echoes_run hc) fun absorbed x y h => .pure ?_
    obtain ⟨rfl, rfl⟩ := h
    exact agree_self _

/-- **What asks for nothing that creates something is steady.** -/
theorem steady_of_asks {a : Attempt ε α} (h : a.Made (Asks Harmless)) : k.Steady a :=
  steady_of_made steady_ask h

/-- To start a tool creates nothing, whatever the tool is. -/
theorem harmless_versionCommand (tool : String) : Harmless (Tools.versionCommand tool) := by
  simp [Harmless, Command.isCreation, creations, Tools.versionCommand, Command.of,
    List.isPrefixOf]

/-- **The steps of the stages that create nothing are steady.** -/
theorem steady_of_step {id : StageId} {a : Attempt ε α} (h : Step id ε α a)
    (hid : id = .prerequisites ∨ id = .images ∨ id = .baseApp) : k.Steady a := by
  refine steady_of_asks ?_
  cases h with
  | findTool tool => exact made_findTool rfl (harmless_versionCommand tool)
  | authList => exact made_runChecked rfl
  | configureDocker => exact made_runChecked rfl
  | build image dockerfile context platform => cases platform <;> exact made_runChecked rfl
  | push => exact made_runChecked rfl
  | applyPath => exact made_runChecked rfl
  | _ => simp at hid

theorem steady_of_look {a : Attempt ε α} (h : Look ε α a) : k.Steady a := by
  cases h with
  | get => exact steady_of_asks (made_runChecked rfl)

/-! ### Creations in two runs -/

/-- The outputs of a command in the two runs: the same, or those of a creation that was absorbed. -/
inductive OutputsEcho (c : Command) : List Command → Output → Output → Prop
  | same (o : Output) : OutputsEcho c [] o o
  | absorbed {o o' : Output} {n : Int32} (h : o.status = .success) (h' : o'.status = .error n)
      (hdup : Policy.saysDuplicate o'.stderr = true) : OutputsEcho c [c] o o'

/-- What became of a creation in the two runs. -/
inductive CreationsEcho (c : Command) : List Command → Creation → Creation → Prop
  | same (x : Creation) : CreationsEcho c [] x x
  | absorbed : CreationsEcho c [c] .created .alreadyExisted

/-- Any command, whether or not it creates something. -/
theorem returns_run (c : Command) : k.Returns (OutputsEcho c) (Attempt.run c) (Attempt.run c) := by
  intro past past' hpast
  change ∃ absorbed, Replays absorbed [(c, k.first (commandsOf past) c)]
      [(c, k.second (commandsOf past') c)] ∧
    Agree Eq _ (k.first (commandsOf past) c) (k.second (commandsOf past') c)
  have hanswers := k.answers (commandsOf past) c
  rw [hpast]
  generalize k.first (commandsOf past) c = a at hanswers ⊢
  generalize k.second (commandsOf past) c = a' at hanswers ⊢
  -- the answers are the same, or the command is a creation and is absorbed
  rcases hanswers with rfl | habsorbed
  · exact ⟨[], .same _ .nil, .refl Eq.refl .same _⟩
  · refine ⟨[c], .absorbed habsorbed .nil, ?_⟩
    cases habsorbed with
    | intro _ hs hn hdup => exact .ok (.absorbed hs hn hdup)

/-- **A creation under a policy that absorbs duplicates** comes to having created or, where it was
absorbed, to having found. -/
theorem returns_created (c : Command) (label : String) :
    k.Returns (CreationsEcho c)
      (Stages.Provisioning.created .treatDuplicateAsSuccess label (Attempt.run c))
      (Stages.Provisioning.created .treatDuplicateAsSuccess label (Attempt.run c)) := by
  refine (returns_run c).steady fun absorbed o o' h => ?_
  cases h with
  | same => exact Echoes.pure (.refl Eq.refl (fun x => ⟨rfl, .same x⟩) _)
  | absorbed hs hn hdup =>
    have hcreated : Policy.resolve .treatDuplicateAsSuccess label o = .ok .created :=
      (Policy.resolve_eq_ok_iff label).mpr (.created hs)
    have hexisted : Policy.resolve .treatDuplicateAsSuccess label o' = .ok .alreadyExisted :=
      (Policy.resolve_eq_ok_iff label).mpr (.absorbed rfl hn (Policy.saysDuplicate_iff.mp hdup))
    rw [hcreated, hexisted]
    exact Echoes.pure (.ok ⟨rfl, .absorbed⟩)

end Rerun

end Rollout
