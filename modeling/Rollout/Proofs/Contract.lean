import Rollout.Proofs.Attempt

/-!
# Contracts of attempts

A *contract* says of an attempt what its value or its failure has to do with the calls that it makes
(`Rollout.Attempt.Ensures`). It holds whatever answers the commands and whatever has happened
before, and so it says nothing that the calls of the attempt do not bear out. Where only success
matters, a contract may leave failure open (`Rollout.Attempt.Yields`).

The rule for composition, `Rollout.Attempt.Ensures.bind`, hands the calls of the first attempt on to
the contract of the second: what comes behind is judged together with what came before. A command
that has to succeed is the one primitive (`Rollout.Attempt.ensures_runChecked`).
-/

namespace Rollout.Attempt

variable {ε ε' α β : Type} {Ok Ok' : α → List Call → Prop} {Err Err' : ε → List Call → Prop}

/-- **A contract**: `Ok` holds of the value and the calls of the attempt if it succeeds, and `Err` of
the failure and the calls if it fails. -/
def Ensures (a : Attempt ε α) (Ok : α → List Call → Prop) (Err : ε → List Call → Prop) : Prop :=
  ∀ runner past, match a.result runner past with
    | .ok x => Ok x (callsOf (a.events runner past))
    | .error e => Err e (callsOf (a.events runner past))

/-- A contract for success only. -/
abbrev Yields (a : Attempt ε α) (Ok : α → List Call → Prop) : Prop := a.Ensures Ok fun _ _ => True

/-- What a contract says of an attempt that succeeds. -/
theorem Ensures.of_ok {a : Attempt ε α} (h : a.Ensures Ok Err) {runner : Runner}
    {past : List Event} {x : α} (hx : a.result runner past = .ok x) :
    Ok x (callsOf (a.events runner past)) := by
  have hcontract := h runner past
  rwa [hx] at hcontract

theorem Ensures.mono {a : Attempt ε α} (h : a.Ensures Ok Err)
    (hok : ∀ x calls, Ok x calls → Ok' x calls) (herr : ∀ e calls, Err e calls → Err' e calls) :
    a.Ensures Ok' Err' := by
  intro runner past
  have hcontract := h runner past
  split
  · rename_i x hx
    rw [hx] at hcontract
    exact hok x _ hcontract
  · rename_i e he
    rw [he] at hcontract
    exact herr e _ hcontract

theorem Yields.mono {a : Attempt ε α} (h : a.Yields Ok)
    (hok : ∀ x calls, Ok x calls → Ok' x calls) : a.Yields Ok' :=
  Ensures.mono h hok fun _ _ _ => trivial

/-! ### Rules -/

theorem ensures_ofExcept (r : Except ε α) :
    (ofExcept r).Ensures (fun x calls => r = .ok x ∧ calls = [])
      fun e calls => r = .error e ∧ calls = [] := by
  intro runner past
  rw [result_ofExcept]
  cases r <;> exact ⟨rfl, rfl⟩

theorem ensures_pure (x : α) :
    (pure x : Attempt ε α).Ensures (fun y calls => y = x ∧ calls = []) fun _ _ => False :=
  fun _ _ => ⟨rfl, rfl⟩

/-- **Composition.** The second attempt is judged with the calls of the first in front of its
own. -/
theorem Ensures.bind {Mid : α → List Call → Prop} {Stop : ε → List Call → Prop}
    {Ok : β → List Call → Prop} {a : Attempt ε α} {f : α → Attempt ε β} (ha : a.Ensures Mid Stop)
    (hf : ∀ x before, Mid x before →
      (f x).Ensures (fun y after => Ok y (before ++ after)) fun e after => Err e (before ++ after))
    (hstop : ∀ e calls, Stop e calls → Err e calls) : (a >>= f).Ensures Ok Err := by
  intro runner past
  have hcontract := ha runner past
  cases hr : a.result runner past with
  | ok x =>
    rw [hr] at hcontract
    rw [result_bind_of_ok hr, events_bind_of_ok hr, callsOf_append]
    exact hf x _ hcontract runner (past ++ a.events runner past)
  | error e =>
    rw [hr] at hcontract
    rw [result_bind_of_error hr, events_bind_of_error hr]
    exact hstop e _ hcontract

theorem Yields.bind {Mid : α → List Call → Prop} {Ok : β → List Call → Prop} {a : Attempt ε α}
    {f : α → Attempt ε β} (ha : a.Yields Mid)
    (hf : ∀ x before, Mid x before → (f x).Yields fun y after => Ok y (before ++ after)) :
    (a >>= f).Yields Ok :=
  Ensures.bind ha hf fun _ _ _ => trivial

/-- What is read from the value of an attempt. -/
theorem Ensures.read {a : Attempt ε α} (h : a.Ensures Ok Err) (read : α → β) :
    (do return read (← a)).Ensures (fun y calls => ∃ x, y = read x ∧ Ok x calls) Err := by
  refine h.bind (fun x before hx => (ensures_pure (read x)).mono ?_ nofun) fun _ _ h => h
  rintro y after ⟨rfl, rfl⟩
  exact ⟨x, rfl, by rwa [List.append_nil]⟩

/-- Behind a session that runs no command. -/
theorem Ensures.after_silent {Ok : β → List Call → Prop} {s : Session α} {f : α → Attempt ε β}
    (hs : ∀ runner past, callsOf (s.events runner past) = [])
    (hf : ∀ x, (f x).Ensures Ok Err) : (always s >>= f).Ensures Ok Err := by
  intro runner past
  rw [result_bind_of_ok (result_always s), events_bind_of_ok (result_always s), callsOf_append,
    events_always, hs, List.nil_append]
  exact hf _ runner _

/-- Behind a line. -/
theorem Ensures.after_display {l : Line} {f : Unit → Attempt ε α} (hf : (f ()).Ensures Ok Err) :
    (display l >>= f).Ensures Ok Err :=
  .after_silent (fun _ _ => rfl) fun _ => hf

theorem Ensures.mapFailure {a : Attempt ε α} (h : a.Ensures Ok Err) (f : ε → ε') :
    (Attempt.mapFailure f a).Ensures Ok fun e calls => ∃ cause, e = f cause ∧ Err cause calls := by
  intro runner past
  have hcontract := h runner past
  rw [result_mapFailure, events_mapFailure]
  cases hr : a.result runner past with
  | ok x =>
    rw [hr] at hcontract
    exact hcontract
  | error e =>
    rw [hr] at hcontract
    exact ⟨e, rfl, hcontract⟩

theorem Yields.mapFailure {a : Attempt ε α} (h : a.Yields Ok) (f : ε → ε') :
    (Attempt.mapFailure f a).Yields Ok :=
  (Ensures.mapFailure h f).mono (fun _ _ h => h) fun _ _ _ => trivial

/-! ### Commands -/

/-- A command makes the one call that its answer comes from. -/
theorem ensures_run (c : Command) :
    (run c).Ensures (fun o calls => calls = [(c, .ok o)]) fun e calls => calls = [(c, .error e)] := by
  intro runner past
  rw [result_run, events_run]
  cases hr : runner (commandsOf past) c <;> rfl

/-- **A command that has to succeed** makes one call, and gets through exactly on success. -/
theorem ensures_runChecked (c : Command) :
    (runChecked c).Ensures (fun o calls => calls = [(c, .ok o)] ∧ o.status = .success)
      fun _ calls => ∃ answer, calls = [(c, answer)] ∧ ∀ o, answer = .ok o → o.status ≠ .success := by
  refine (ensures_run c).bind (fun o before hbefore => ?_) fun e calls hcalls => ?_
  · refine (ensures_ofExcept (o.success? c)).mono ?_ ?_
    · rintro p after ⟨hp, rfl⟩
      obtain ⟨hs, rfl⟩ := (Output.success?_eq_ok_iff ..).mp hp
      exact ⟨by rw [hbefore, List.append_nil], hs⟩
    · rintro e after ⟨he, rfl⟩
      refine ⟨.ok o, by rw [hbefore, List.append_nil], fun p hp hs => ?_⟩
      obtain rfl := Except.ok.inj hp
      rw [(Output.success?_eq_ok_iff ..).mpr ⟨hs, rfl⟩] at he
      cases he
  · exact ⟨.error e, hcalls, nofun⟩

end Rollout.Attempt
