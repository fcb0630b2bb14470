import Rollout.Proofs.Repertoire

/-!
# What answers the calls of an attempt

An attempt records its calls with their answers, and nothing in its type keeps it from recording
answers that nobody gave. The calls of an attempt that is made of steps are *answered* by the runner
(`Rollout.Answered`): each answer is what the runner says to the command, given all commands that
were run before it, those of the past included. So what a contract says of answers is said of the
runner.

The main statement is `Rollout.Attempt.faithful_of_made_steps`.
-/

namespace Rollout

/-- **Calls that a runner answers**, where some commands were run in the past. -/
inductive Answered (runner : Runner) : (past : List Command) → List Call → Prop
  | nil {past : List Command} : Answered runner past []
  | cons {past : List Command} {c : Command} {calls : List Call}
      (hrest : Answered runner (past ++ [c]) calls) :
      Answered runner past ((c, runner past c) :: calls)

/-- The commands of the first calls are a part of the past of the others. -/
theorem Answered.append {runner : Runner} {past : List Command} {calls after : List Call}
    (h : Answered runner past calls)
    (hafter : Answered runner (past ++ calls.map Prod.fst) after) :
    Answered runner past (calls ++ after) := by
  induction h with
  | nil => rwa [List.map_nil, List.append_nil] at hafter
  | cons _ ih =>
    rw [List.map_cons, List.append_cons] at hafter
    exact .cons (ih hafter)

namespace Attempt

variable {ε ε' α β : Type}

/-- **A faithful attempt**: all its calls are answered by the runner. -/
def Faithful (a : Attempt ε α) : Prop :=
  ∀ runner past, Answered runner (commandsOf past) (callsOf (a.events runner past))

theorem faithful_of_silent {a : Attempt ε α}
    (h : ∀ runner past, callsOf (a.events runner past) = []) : a.Faithful := by
  intro runner past
  rw [h]
  exact .nil

theorem Faithful.bind {a : Attempt ε α} {f : α → Attempt ε β} (ha : a.Faithful)
    (hf : ∀ x, (f x).Faithful) : (a >>= f).Faithful := by
  intro runner past
  cases hresult : a.result runner past with
  | error e =>
    rw [events_bind_of_error hresult]
    exact ha runner past
  | ok x =>
    have hafter := hf x runner (past ++ a.events runner past)
    rw [commandsOf_append, ← map_fst_callsOf (a.events runner past)] at hafter
    rw [events_bind_of_ok hresult, callsOf_append]
    exact (ha runner past).append hafter

theorem Faithful.mapFailure {a : Attempt ε α} (h : a.Faithful) (f : ε → ε') :
    (Attempt.mapFailure f a).Faithful := by
  intro runner past
  rw [events_mapFailure]
  exact h runner past

/-- **An attempt is faithful if its steps are.** -/
theorem faithful_of_made {S : (ε α : Type) → Attempt ε α → Prop}
    (hstep : ∀ {ε α} {a : Attempt ε α}, S ε α a → a.Faithful) {a : Attempt ε α} (h : a.Made S) :
    a.Faithful := by
  induction h with
  | step h => exact hstep h
  | ofExcept e => exact faithful_of_silent fun _ _ => rfl
  | display l => exact faithful_of_silent fun _ _ => rfl
  | sleep d => exact faithful_of_silent fun _ _ => rfl
  | check c => exact faithful_of_silent fun _ _ => rfl
  | bind _ _ iha ihf => exact iha.bind ihf
  | mapFailure f _ ih => exact ih.mapFailure f

/-- Whoever asks is answered by the runner. -/
theorem faithful_ask {P : Command → Prop} {a : Attempt ε α} (h : Asks P ε α a) : a.Faithful := by
  cases h with
  | ask _ => exact fun _ _ => .cons .nil

/-- **What is made of the steps of a stage is faithful.** -/
theorem faithful_of_made_steps {id : StageId} {a : Attempt ε α} (h : a.Made (Step id)) :
    a.Faithful :=
  faithful_of_made (fun hstep => faithful_of_made faithful_ask (made_of_step hstep)) h

end Attempt

end Rollout
