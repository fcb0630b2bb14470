import Rollout.Pipeline
import Rollout.Proofs.Coupling

/-!
# Two runs of a plan in step

Two pipelines run the same plan in step as soon as the work of their stages and their waits do:
`Rollout.Coupling.inStep_run`. What the stages of the two runs share, what they fail with and what
they have to say may differ, as long as it stays related; `Rollout.Coupling.Twins` collects what the
relations have to satisfy. The induction is on the stages that are left.
-/

namespace Rollout.Coupling

variable {V : Type} {k : Coupling V}

/-- What the two runs share is related. -/
structure ContextsAgree (C : Option Configuration → Option Configuration → Prop)
    (ctx ctx' : Context) : Prop where
  configuration : C ctx.configuration ctx'.configuration
  completed : ctx.completed = ctx'.completed

theorem ContextsAgree.complete {C : Option Configuration → Option Configuration → Prop}
    {ctx ctx' : Context} (h : ContextsAgree C ctx ctx') (id : StageId) :
    ContextsAgree C (ctx.complete id) (ctx'.complete id) :=
  ⟨h.configuration, congrArg (· ++ [id]) h.completed⟩

/-- Where the configurations are the same, all that is shared is. -/
theorem contextsAgree_eq_iff {ctx ctx' : Context} : ContextsAgree Eq ctx ctx' ↔ ctx = ctx' := by
  constructor
  · rintro ⟨hconfiguration, hcompleted⟩
    cases ctx
    cases ctx'
    cases hconfiguration
    cases hcompleted
    rfl
  · rintro rfl
    exact ⟨rfl, rfl⟩

/-- What came of the work of a stage on both sides. -/
structure WorksAgree (C : Option Configuration → Option Configuration → Prop)
    (E : Failure → Failure → Prop) (R : Outcome → Outcome → Prop) (w w' : Work) : Prop where
  ctx : ContextsAgree C w.ctx w'.ctx
  outcome : Agree E R w.outcome w'.outcome

/-- **Two pipelines that go in step** at some stages, with their configurations, their failures and
the outcomes of the stages related. -/
structure Twins (k : Coupling V) (C : Option Configuration → Option Configuration → Prop)
    (E : Failure → Failure → Prop) (R : Outcome → Outcome → Prop) (stages : List Stage)
    (p p' : Pipeline) : Prop where
  none : C none none
  failure : ∀ f, E f f
  masked : ∀ {c c' f f'}, C c c' → E f f' →
    E (f.masked (Context.mask c)) (f'.masked (Context.mask c'))
  actions : ∀ stage ∈ stages, ∀ ctx ctx', ContextsAgree C ctx ctx' →
    k.InStep (WorksAgree C E R) (p.actions stage ctx) (p'.actions stage ctx')
  await : ∀ conditions o o', R o o' →
    k.Matches E R (Pipeline.await p.waiter conditions o) (Pipeline.await p'.waiter conditions o')

section Run

variable {C : Option Configuration → Option Configuration → Prop} {E : Failure → Failure → Prop}
  {R : Outcome → Outcome → Prop} {planned : List Stage} {p p' : Pipeline}
  (twins : Twins k C E R planned p p')

theorem inStep_begin (id : StageId) : k.InStep Eq (Session.begin id) (Session.begin id) :=
  .of_same fun _ _ _ _ => rfl

theorem inStep_clock : k.InStep (fun _ _ => True) Session.clock Session.clock :=
  fun _ _ _ => ⟨.refl [], trivial⟩

theorem inStep_now : k.InStep (fun _ _ => True) Pipeline.now Pipeline.now :=
  inStep_clock.bind fun _ _ _ => .pure trivial

include twins

theorem inStep_perform {stage : Stage} (hstage : stage ∈ planned) {ctx ctx' : Context}
    (hctx : ContextsAgree C ctx ctx') :
    k.InStep (WorksAgree C E R) (p.perform stage ctx) (p'.perform stage ctx') := by
  refine (inStep_begin stage.id).bind fun _ _ _ => ?_
  refine (twins.actions stage hstage ctx ctx' hctx).bind fun work work' hwork => ?_
  obtain ⟨shared, outcome⟩ := work
  obtain ⟨shared', outcome'⟩ := work'
  obtain ⟨hshared, houtcome⟩ := hwork
  cases houtcome with
  | ok h =>
    exact InStep.bind (twins.await stage.readiness _ _ h) fun _ _ hxy => .pure ⟨hshared, hxy⟩
  | error h => exact .pure ⟨hshared, .error h⟩

theorem inStep_runStage {stage : Stage} (hstage : stage ∈ planned) {ctx ctx' : Context}
    (hctx : ContextsAgree C ctx ctx') :
    k.InStep (WorksAgree C E R) (p.runStage stage ctx) (p'.runStage stage ctx') := by
  have hunmet : ctx'.unmet stage = ctx.unmet stage := by
    rw [Context.unmet, Context.unmet, hctx.completed]
  unfold Pipeline.runStage
  rw [hunmet]
  split
  · exact inStep_perform twins hstage hctx
  · exact .pure ⟨hctx, .error (twins.failure _)⟩

theorem inStep_runFrom (goal : Goal) (total number : Nat) {stages : List Stage}
    (hstages : ∀ stage ∈ stages, stage ∈ planned) {ctx ctx' : Context}
    (hctx : ContextsAgree C ctx ctx') (r r' : Report) :
    k.InStep (fun x y => Agree E Eq x.2 y.2) (p.runFrom goal total number stages ctx r)
      (p'.runFrom goal total number stages ctx' r') := by
  induction stages generalizing number ctx ctx' r r' with
  | nil =>
    refine inStep_now.bind fun _ _ _ => (InStep.display _).bind fun _ _ _ => ?_
    exact .pure (.ok rfl)
  | cons stage rest ih =>
    -- the line is the same on both sides; the times go into the reports only and may differ
    refine (InStep.display _).bind fun _ _ _ => inStep_now.bind fun _ _ _ => ?_
    refine inStep_clock.bind fun _ _ _ => ?_
    refine (inStep_runStage twins (hstages stage List.mem_cons_self) hctx).bind
      fun work work' hwork => ?_
    refine inStep_clock.bind fun _ _ _ => ?_
    obtain ⟨shared, outcome⟩ := work
    obtain ⟨shared', outcome'⟩ := work'
    obtain ⟨hshared, houtcome⟩ := hwork
    have hrest : ∀ stage ∈ rest, stage ∈ planned := fun _ h => hstages _ (List.mem_cons_of_mem _ h)
    cases houtcome with
    | ok h => exact ih _ hrest (hshared.complete stage.id) _ _
    | error h =>
      exact inStep_now.bind fun _ _ _ => .pure (.error (twins.masked hshared.configuration h))

end Run

/-- **Two runs of a plan go in step**, and end alike. -/
theorem inStep_run {C : Option Configuration → Option Configuration → Prop}
    {E : Failure → Failure → Prop} {R : Outcome → Outcome → Prop} {plan : Plan} {p p' : Pipeline}
    (twins : Twins k C E R plan.stages p p') (r r' : Report) :
    k.InStep (fun x y => Agree E Eq x.2 y.2) (p.run plan r) (p'.run plan r') :=
  inStep_runFrom twins _ _ _ (fun _ h => h) ⟨twins.none, rfl⟩ r r'

end Rollout.Coupling
