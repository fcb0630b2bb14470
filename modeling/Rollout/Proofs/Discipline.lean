import Rollout.Proofs.Repertoire

/-!
# Disciplines of a history

A *discipline* says what the calls of a piece of a run may look like: one property of calls for a
piece that gets through (`Rollout.Discipline.Whole`) and a weaker one for a piece that fails
(`Rollout.Discipline.Cut`). Both survive when calls of the first sort come before, and that is all
that is needed to judge a composition by its parts: `Rollout.Discipline.ObeysWhen.bind` for attempts
and `Rollout.Discipline.Keeps.bind` for sessions.

A piece of a run *obeys* a discipline whatever answers its commands and whatever has happened
before. Only the steps look at single commands; an attempt that is made of steps obeys what they
obey, `Rollout.Discipline.obeys_of_made`.
-/

namespace Rollout

/-- What the calls of a piece of a run may look like. -/
structure Discipline where
  /-- The calls of a piece that gets through. -/
  Whole : List Call → Prop
  /-- The calls of a piece that fails. -/
  Cut : List Call → Prop
  whole_nil : Whole []
  whole_append : ∀ {before after}, Whole before → Whole after → Whole (before ++ after)
  cut_of_whole : ∀ {calls}, Whole calls → Cut calls
  cut_append : ∀ {before after}, Whole before → Cut after → Cut (before ++ after)

namespace Discipline

variable {ε ε' α β : Type} (d : Discipline)

/-! ### Sessions -/

/-- **A session keeps a discipline**, where `Through` tells the results with which it gets
through. -/
def Keeps (Through : α → Prop) (s : Session α) : Prop :=
  ∀ runner past, d.Cut (callsOf (s.events runner past)) ∧
    (Through (s.result runner past) → d.Whole (callsOf (s.events runner past)))

variable {d}

/-- A session that runs no command keeps every discipline. -/
theorem Keeps.of_silent {Through : α → Prop} {s : Session α}
    (h : ∀ runner past, callsOf (s.events runner past) = []) : d.Keeps Through s := by
  intro runner past
  rw [h runner past]
  exact ⟨d.cut_of_whole d.whole_nil, fun _ => d.whole_nil⟩

/-- **Composition of sessions.** Behind a result that does not get through, the second session must
not get through either, and must run no command. -/
theorem Keeps.bind {Through : α → Prop} {Through' : β → Prop} {s : Session α}
    {f : α → Session β} (hs : d.Keeps Through s) (hf : ∀ x, Through x → d.Keeps Through' (f x))
    (hstop : ∀ x, ¬Through x → ∀ runner past,
      callsOf ((f x).events runner past) = [] ∧ ¬Through' ((f x).result runner past)) :
    d.Keeps Through' (s >>= f) := by
  intro runner past
  obtain ⟨hcut, hwhole⟩ := hs runner past
  rw [Session.events_bind, Session.result_bind, callsOf_append]
  by_cases hx : Through (s.result runner past)
  · obtain ⟨hcut', hwhole'⟩ := hf _ hx runner (past ++ s.events runner past)
    exact ⟨d.cut_append (hwhole hx) hcut', fun h => d.whole_append (hwhole hx) (hwhole' h)⟩
  · obtain ⟨hnone, hnot⟩ := hstop _ hx runner (past ++ s.events runner past)
    rw [hnone, List.append_nil]
    exact ⟨hcut, fun h => absurd h hnot⟩

/-- Behind a session that runs no command, only what follows counts. -/
theorem Keeps.after_silent {Through : β → Prop} {s : Session α} {f : α → Session β}
    (hs : ∀ runner past, callsOf (s.events runner past) = [])
    (hf : ∀ x, d.Keeps Through (f x)) : d.Keeps Through (s >>= f) := by
  have hall : d.Keeps (fun _ => True) s := .of_silent hs
  exact hall.bind (fun x _ => hf x) fun _ h => absurd trivial h

/-! ### Attempts -/

variable (d) in
/-- **An attempt obeys a discipline**, where `Through` tells the values with which it gets through:
there are attempts whose value says that what follows will fail. -/
def ObeysWhen (Through : α → Prop) (a : Attempt ε α) : Prop :=
  ∀ runner past, d.Cut (callsOf (a.events runner past)) ∧
    ∀ x, a.result runner past = .ok x → Through x → d.Whole (callsOf (a.events runner past))

variable (d) in
/-- An attempt that gets through with every value. -/
abbrev Obeys (a : Attempt ε α) : Prop := d.ObeysWhen (fun _ => True) a

/-- The session of an attempt keeps what the attempt obeys. -/
theorem ObeysWhen.keeps {a : Attempt ε α} (h : d.Obeys a) :
    d.Keeps (fun e => ∃ x, e = .ok x) (ExceptT.run a) := by
  intro runner past
  obtain ⟨hcut, hwhole⟩ := h runner past
  refine ⟨hcut, ?_⟩
  rintro ⟨x, hx⟩
  exact hwhole x hx trivial

/-- An attempt that runs no command obeys every discipline. -/
theorem ObeysWhen.of_silent {Through : α → Prop} {a : Attempt ε α}
    (h : ∀ runner past, callsOf (a.events runner past) = []) : d.ObeysWhen Through a := by
  intro runner past
  rw [h runner past]
  exact ⟨d.cut_of_whole d.whole_nil, fun _ _ _ => d.whole_nil⟩

theorem ObeysWhen.pure {Through : α → Prop} (x : α) :
    d.ObeysWhen Through (pure x : Attempt ε α) :=
  .of_silent fun _ _ => rfl

theorem ObeysWhen.ofExcept {Through : α → Prop} (e : Except ε α) :
    d.ObeysWhen Through (Attempt.ofExcept e) :=
  .of_silent fun _ _ => rfl

/-- **Composition of attempts.** Behind a value that does not get through, the second attempt has to
fail at once. -/
theorem ObeysWhen.bind_of_through {Through : α → Prop} {Through' : β → Prop} {a : Attempt ε α}
    {f : α → Attempt ε β} (ha : d.ObeysWhen Through a)
    (hf : ∀ x, Through x → d.ObeysWhen Through' (f x))
    (hstop : ∀ x, ¬Through x → ∃ e, f x = Attempt.fail e) : d.ObeysWhen Through' (a >>= f) := by
  intro runner past
  obtain ⟨hcut, hwhole⟩ := ha runner past
  cases hr : a.result runner past with
  | error e =>
    rw [Attempt.result_bind_of_error hr, Attempt.events_bind_of_error hr]
    refine ⟨hcut, fun y hy => ?_⟩
    cases hy
  | ok x =>
    rw [Attempt.result_bind_of_ok hr, Attempt.events_bind_of_ok hr, callsOf_append]
    by_cases hx : Through x
    · obtain ⟨hcut', hwhole'⟩ := hf x hx runner (past ++ a.events runner past)
      have hfirst := hwhole x hr hx
      exact ⟨d.cut_append hfirst hcut', fun y hy ht => d.whole_append hfirst (hwhole' y hy ht)⟩
    · -- the second attempt adds no call, and its failure makes the whole one that is cut short
      obtain ⟨e, he⟩ := hstop x hx
      rw [he]
      refine ⟨?_, fun y hy => ?_⟩
      · simpa [Attempt.fail] using hcut
      · cases hy

/-- Composition, where the first attempt gets through with every value. -/
theorem ObeysWhen.bind {Through : β → Prop} {a : Attempt ε α} {f : α → Attempt ε β}
    (ha : d.Obeys a) (hf : ∀ x, d.ObeysWhen Through (f x)) : d.ObeysWhen Through (a >>= f) :=
  ha.bind_of_through (fun x _ => hf x) fun _ h => absurd trivial h

/-- How a failure is worded is not a matter of discipline. -/
theorem ObeysWhen.mapFailure {Through : α → Prop} {a : Attempt ε α} (ha : d.ObeysWhen Through a)
    (f : ε → ε') : d.ObeysWhen Through (Attempt.mapFailure f a) := by
  intro runner past
  obtain ⟨hcut, hwhole⟩ := ha runner past
  rw [Attempt.result_mapFailure, Attempt.events_mapFailure]
  refine ⟨hcut, fun x hx => hwhole x ?_⟩
  cases hr : a.result runner past with
  | ok y =>
    rw [hr] at hx
    exact congrArg _ (Except.ok.inj hx)
  | error e =>
    rw [hr] at hx
    cases hx

/-- **An attempt obeys what its steps obey.** -/
theorem obeys_of_made {S : (ε α : Type) → Attempt ε α → Prop}
    (hstep : ∀ {ε α} {a : Attempt ε α}, S ε α a → d.Obeys a) {a : Attempt ε α} (h : a.Made S) :
    d.Obeys a := by
  induction h with
  | step h => exact hstep h
  | ofExcept e => exact .ofExcept e
  | display l => exact .of_silent fun _ _ => rfl
  | sleep pause => exact .of_silent fun _ _ => rfl
  | check c => exact .of_silent fun _ _ => rfl
  | bind _ _ iha ihf => exact iha.bind ihf
  | mapFailure f _ ih => exact ih.mapFailure f

end Discipline

end Rollout
