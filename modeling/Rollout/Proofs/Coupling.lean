import Rollout.Proofs.Repertoire

/-!
# Two runs in step

A property of two runs is proved by taking both through their programs side by side. A *coupling*
fixes the two runners and what is to be seen of a history; two pieces of a run go *in step* when,
from histories that look the same, they do what looks the same and come to results that are related
(`Rollout.Coupling.InStep` for sessions, `Rollout.Coupling.Matches` for attempts). Both are closed
under composition, and so only single steps have to be looked at.

Where both sides are the same program, the single steps of that program decide: it goes in step with
itself as soon as its commands do, `Rollout.Coupling.same_of_made`.
-/

namespace Rollout

/-- Two runners, and what is to be seen of a history. -/
structure Coupling (V : Type) where
  left : Runner
  right : Runner
  /-- What is to be seen of an event, if anything is. -/
  view : Event → Option V

/-- Two outcomes of the same sort, with what they hold related. -/
inductive Agree {ε ε' α β : Type} (E : ε → ε' → Prop) (R : α → β → Prop) :
    Except ε α → Except ε' β → Prop
  | ok {x : α} {y : β} (h : R x y) : Agree E R (.ok x) (.ok y)
  | error {e : ε} {e' : ε'} (h : E e e') : Agree E R (.error e) (.error e')

namespace Agree

variable {ε ε' α α' β β' : Type} {E : ε → ε' → Prop} {R : α → β → Prop} {R' : α' → β' → Prop}

theorem refl {E : ε → ε → Prop} {R : α → α → Prop} (hE : ∀ e, E e e) (hR : ∀ x, R x x)
    (x : Except ε α) : Agree E R x x := by
  cases x with
  | ok x => exact .ok (hR x)
  | error e => exact .error (hE e)

theorem of_eq {x y : Except ε α} (h : x = y) : Agree Eq Eq x y := h ▸ .refl Eq.refl Eq.refl x

theorem eq {x y : Except ε α} (h : Agree Eq Eq x y) : x = y := by
  cases h with
  | ok h => rw [h]
  | error h => rw [h]

/-- Composition; the second part may know that the first succeeded. -/
theorem bind {x : Except ε α} {y : Except ε' β} {f : α → Except ε α'} {g : β → Except ε' β'}
    (h : Agree E R x y)
    (hf : ∀ a b, x = .ok a → y = .ok b → R a b → Agree E R' (f a) (g b)) :
    Agree E R' (x >>= f) (y >>= g) := by
  cases h with
  | ok h => exact hf _ _ rfl rfl h
  | error h => exact .error h

end Agree

namespace Coupling

variable {V : Type} {k : Coupling V} {α α' β β' ε ε' φ φ' : Type}

/-! ### Histories -/

variable (k) in
/-- Two histories look the same. -/
def Alike (xs ys : List Event) : Prop := xs.filterMap k.view = ys.filterMap k.view

theorem Alike.refl (xs : List Event) : k.Alike xs xs := rfl

theorem Alike.append {xs xs' ys ys' : List Event} (hx : k.Alike xs ys) (hx' : k.Alike xs' ys') :
    k.Alike (xs ++ xs') (ys ++ ys') := by
  unfold Alike at *
  rw [List.filterMap_append, List.filterMap_append, hx, hx']

/-! ### Sessions -/

variable (k) in
/-- **Two sessions go in step**: from histories that look the same they do what looks the same, and
their results are related. -/
def InStep (R : α → β → Prop) (s : Session α) (t : Session β) : Prop :=
  ∀ past past', k.Alike past past' →
    k.Alike (s.events k.left past) (t.events k.right past') ∧
      R (s.result k.left past) (t.result k.right past')

theorem InStep.pure {R : α → β → Prop} {x : α} {y : β} (h : R x y) :
    k.InStep R (pure x) (pure y) :=
  fun _ _ _ => ⟨.refl [], h⟩

/-- **Composition of sessions.** -/
theorem InStep.bind {R : α → β → Prop} {R' : α' → β' → Prop} {s : Session α} {t : Session β}
    {f : α → Session α'} {g : β → Session β'} (hs : k.InStep R s t)
    (hf : ∀ x y, R x y → k.InStep R' (f x) (g y)) : k.InStep R' (s >>= f) (t >>= g) := by
  intro past past' hpast
  obtain ⟨hevents, hresult⟩ := hs past past' hpast
  obtain ⟨hevents', hresult'⟩ := hf _ _ hresult _ _ (hpast.append hevents)
  exact ⟨hevents.append hevents', hresult'⟩

/-- A session that does the same on both sides, whatever has happened, and tells nothing. -/
theorem InStep.of_same {s : Session Unit} (h : ∀ runner runner' past past',
    s.events runner past = s.events runner' past') : k.InStep Eq s s :=
  fun _ _ _ => ⟨congrArg (List.filterMap k.view) (h ..), rfl⟩

theorem InStep.display (l : Line) : k.InStep Eq (Session.display l) (Session.display l) :=
  .of_same fun _ _ _ _ => rfl

/-! ### Attempts -/

variable (k) in
/-- **Two attempts go in step**, with their failures and their values related. -/
def Matches (E : ε → ε' → Prop) (R : α → β → Prop) (a : Attempt ε α) (b : Attempt ε' β) : Prop :=
  k.InStep (Agree E R) (ExceptT.run a) (ExceptT.run b)

section Rules

variable {E : ε → ε' → Prop} {R : α → β → Prop} {R' : α' → β' → Prop}

theorem Matches.ofExcept {x : Except ε α} {y : Except ε' β} (h : Agree E R x y) :
    k.Matches E R (Attempt.ofExcept x) (Attempt.ofExcept y) :=
  InStep.pure h

theorem Matches.pure {x : α} {y : β} (h : R x y) : k.Matches E R (pure x) (pure y) :=
  InStep.pure (.ok h)

/-- **Composition of attempts.** -/
theorem Matches.bind {a : Attempt ε α} {b : Attempt ε' β} {f : α → Attempt ε α'}
    {g : β → Attempt ε' β'} (ha : k.Matches E R a b)
    (hf : ∀ x y, R x y → k.Matches E R' (f x) (g y)) : k.Matches E R' (a >>= f) (b >>= g) := by
  change k.InStep _ (ExceptT.run a >>= ExceptT.bindCont f) (ExceptT.run b >>= ExceptT.bindCont g)
  refine InStep.bind ha fun x y hxy => ?_
  cases hxy with
  | ok h => exact hf _ _ h
  | error h => exact .pure (.error h)

theorem Matches.always {s : Session α} {t : Session β} (h : k.InStep R s t) :
    k.Matches E R (Attempt.always s) (Attempt.always t) :=
  InStep.bind h fun _ _ hxy => .pure (.ok hxy)

/-- The same line on both sides. -/
theorem Matches.after_display {l : Line} {f : Unit → Attempt ε α} {g : Unit → Attempt ε' β}
    (hf : k.Matches E R (f ()) (g ())) :
    k.Matches E R (Attempt.display l >>= f) (Attempt.display l >>= g) :=
  Matches.bind (Matches.always (.display l)) fun _ _ _ => hf

theorem Matches.mapFailure {E' : φ → φ' → Prop} {a : Attempt ε α} {b : Attempt ε' β}
    (ha : k.Matches E R a b) {f : ε → φ} {g : ε' → φ'} (hf : ∀ e e', E e e' → E' (f e) (g e')) :
    k.Matches E' R (Attempt.mapFailure f a) (Attempt.mapFailure g b) := by
  refine InStep.bind ha fun x y hxy => .pure ?_
  cases hxy with
  | ok h => exact .ok h
  | error h => exact .error (hf _ _ h)

end Rules

/-! ### One program on both sides -/

variable (k) in
/-- **A program goes in step with itself**, with equal results. -/
def Same (a : Attempt ε α) : Prop := k.Matches Eq Eq a a

/-- Equal failures and equal values are related as soon as the relations are reflexive. -/
theorem Same.matches {E : ε → ε → Prop} {R : α → α → Prop} {a : Attempt ε α} (h : k.Same a)
    (hE : ∀ e, E e e) (hR : ∀ x, R x x) : k.Matches E R a a := by
  intro past past' hpast
  obtain ⟨hevents, hresult⟩ := h past past' hpast
  refine ⟨hevents, ?_⟩
  rw [← hresult.eq]
  exact .refl hE hR _

theorem Same.bind {a : Attempt ε α} {f : α → Attempt ε β} (ha : k.Same a)
    (hf : ∀ x, k.Same (f x)) : k.Same (a >>= f) := by
  refine Matches.bind ha fun x y hxy => ?_
  subst hxy
  exact hf x

theorem Same.ofExcept (x : Except ε α) : k.Same (Attempt.ofExcept x) :=
  Matches.ofExcept (.of_eq rfl)

theorem Same.mapFailure {a : Attempt ε α} (ha : k.Same a) (f : ε → ε') :
    k.Same (Attempt.mapFailure f a) :=
  Matches.mapFailure ha fun _ _ h => congrArg f h

/-- **A program goes in step with itself when its steps do.** -/
theorem same_of_made {S : (ε α : Type) → Attempt ε α → Prop}
    (hstep : ∀ {ε α} {a : Attempt ε α}, S ε α a → k.Same a) {a : Attempt ε α} (h : a.Made S) :
    k.Same a := by
  induction h with
  | step h => exact hstep h
  | ofExcept e => exact .ofExcept e
  | display l => exact Matches.always (.display l)
  | sleep pause => exact Matches.always (.of_same fun _ _ _ _ => rfl)
  | check c => exact Matches.always (.of_same fun _ _ _ _ => rfl)
  | bind _ _ iha ihf => exact iha.bind ihf
  | mapFailure f _ ih => exact ih.mapFailure f

/-! ### Steps -/

theorem matches_run {c c' : Command} (h : k.InStep Eq (Session.run c) (Session.run c')) :
    k.Matches Eq Eq (Attempt.run c) (Attempt.run c') := by
  intro past past' hpast
  obtain ⟨hevents, hresult⟩ := h past past' hpast
  exact ⟨hevents, .of_eq hresult⟩

/-- Two commands that have to succeed; how a failure is worded depends on the line only. -/
theorem matches_runChecked {c c' : Command} (h : k.InStep Eq (Session.run c) (Session.run c'))
    (hline : c.line = c'.line) :
    k.Matches Eq Eq (Attempt.runChecked c) (Attempt.runChecked c') := by
  refine Matches.bind (matches_run h) fun o o' ho => .ofExcept (.of_eq ?_)
  rw [ho, Output.success?, Output.success?, hline]

section Steps

variable (hrun : ∀ c, k.InStep Eq (Session.run c) (Session.run c))

include hrun

theorem same_ask {a : Attempt ε α} (h : Asks (fun _ => True) ε α a) : k.Same a := by
  cases h with
  | ask => exact Matches.always (hrun _)

/-- **The steps of the stages know of the past only what answers their commands.** -/
theorem same_of_step {id : StageId} {a : Attempt ε α} (h : Step id ε α a) : k.Same a :=
  same_of_made (same_ask hrun) (made_of_step h)

theorem same_of_look {a : Attempt ε α} (h : Look ε α a) : k.Same a := by
  cases h with
  | get => exact same_of_made (same_ask hrun) (made_runChecked trivial)

end Steps

end Coupling

end Rollout
