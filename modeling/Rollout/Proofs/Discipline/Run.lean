import Rollout.Pipeline
import Rollout.Proofs.Discipline

/-!
# The discipline of a run

The executor runs no command of its own. So a run keeps every discipline that the work of its
stages and its waits keep: `Rollout.Discipline.keeps_run`. The induction is on the stages that are
left, and a stage that fails has nothing behind it.
-/

namespace Rollout.Discipline

variable {d : Discipline}

/-! ### Stages -/

/-- The work of a stage gets through when it has an outcome. -/
def Done (work : Work) : Prop := ∃ o, work.outcome = .ok o

section Run

variable {p : Pipeline} (hactions : ∀ stage ctx, d.Keeps Done (p.actions stage ctx))
  (hawait : ∀ conditions o, d.Obeys (Pipeline.await p.waiter conditions o))

include hactions hawait

theorem keeps_perform (stage : Stage) (ctx : Context) : d.Keeps Done (p.perform stage ctx) := by
  refine Keeps.after_silent (fun _ _ => rfl) fun _ => ?_
  refine (hactions stage ctx).bind (fun work hdone => ?_) fun work hnot runner past => ?_
  · obtain ⟨o, ho⟩ := hdone
    simp only [ho]
    refine (hawait stage.readiness o).keeps.bind (fun e hok => ?_) fun e hfail => ?_
    · exact .of_silent fun _ _ => rfl
    · intro runner past
      refine ⟨rfl, ?_⟩
      rintro ⟨o', ho'⟩
      exact hfail ⟨o', ho'⟩
  · cases ho : work.outcome with
    | ok o => exact absurd ⟨o, ho⟩ hnot
    | error f =>
      refine ⟨rfl, ?_⟩
      rintro ⟨o', ho'⟩
      cases ho'

theorem keeps_runStage (stage : Stage) (ctx : Context) : d.Keeps Done (p.runStage stage ctx) := by
  unfold Pipeline.runStage
  split
  · exact keeps_perform hactions hawait stage ctx
  · exact .of_silent fun _ _ => rfl

theorem keeps_runFrom (goal : Goal) (total number : Nat) (stages : List Stage) (ctx : Context)
    (r : Report) : d.Keeps (fun x => x.2 = .ok ()) (p.runFrom goal total number stages ctx r) := by
  induction stages generalizing number ctx r with
  | nil => exact .of_silent fun _ _ => rfl
  | cons stage rest ih =>
    refine Keeps.after_silent (fun _ _ => rfl) fun _ => ?_
    refine Keeps.after_silent (fun _ _ => rfl) fun startedAt => ?_
    refine Keeps.after_silent (fun _ _ => rfl) fun started => ?_
    refine (keeps_runStage hactions hawait stage ctx).bind (fun work hdone => ?_)
      fun work hnot => ?_
    · obtain ⟨o, ho⟩ := hdone
      refine Keeps.after_silent (fun _ _ => rfl) fun ended => ?_
      simp only [ho]
      exact ih _ _ _
    · intro runner past
      cases ho : work.outcome with
      | ok o => exact absurd ⟨o, ho⟩ hnot
      | error f =>
        simp only [Session.events_bind, Session.result_bind]
        exact ⟨rfl, nofun⟩

/-- **A run keeps the discipline of its parts.** -/
theorem keeps_run (plan : Plan) (r : Report) :
    d.Keeps (fun x => x.2 = .ok ()) (p.run plan r) :=
  keeps_runFrom hactions hawait _ _ _ _ _ _

end Run

end Rollout.Discipline
