import Rollout.Session

/-!
# What an attempt comes to

An attempt is a session whose result may be a failure. This file gives it a view of its own: its
*result* and its *events*, given what answers its commands and what has happened before. Every
proof about a piece of a run reads the piece through these two, and no proof opens an attempt.

The view of a composition is the only place where success and failure part: behind a success the
second attempt goes on from a longer past (`Rollout.Attempt.result_bind_of_ok`,
`Rollout.Attempt.events_bind_of_ok`), and behind a failure nothing happens any more
(`Rollout.Attempt.result_bind_of_error`, `Rollout.Attempt.events_bind_of_error`).

The commands of a history and their answers are its *calls* (`Rollout.callsOf`).
-/

namespace Rollout

/-! ### Calls -/

/-- A command with its answer. -/
abbrev Call : Type := Command × Answer

/-- The command that was run, with its answer. -/
def Event.call? : Event → Option Call
  | ran command answer => some (command, answer)
  | _ => none

/-- The commands that were run, each with its answer, oldest first. -/
def callsOf (events : List Event) : List Call := events.filterMap Event.call?

@[simp] theorem callsOf_nil : callsOf [] = [] := rfl

@[simp] theorem callsOf_append (before after : List Event) :
    callsOf (before ++ after) = callsOf before ++ callsOf after := by
  simp [callsOf]

/-- The commands of the calls are those that were run. -/
theorem map_fst_callsOf (events : List Event) :
    (callsOf events).map Prod.fst = commandsOf events := by
  induction events with
  | nil => rfl
  | cons e rest ih =>
    cases e with
    | ran c answer => exact congrArg (c :: ·) ih
    | _ => exact ih

/-- No command was run where no call was made. -/
theorem commandsOf_eq_nil_iff {events : List Event} :
    commandsOf events = [] ↔ callsOf events = [] := by
  rw [← map_fst_callsOf, List.map_eq_nil_iff]

namespace Attempt

variable {ε ε' α β : Type}

/-- The result of an attempt. -/
def result (a : Attempt ε α) (runner : Runner) (past : List Event) : Except ε α :=
  Session.result (ExceptT.run a) runner past

/-- What an attempt does. -/
def events (a : Attempt ε α) (runner : Runner) (past : List Event) : List Event :=
  Session.events (ExceptT.run a) runner past

variable {runner : Runner} {past : List Event}

/-! ### Composition -/

@[simp] theorem result_pure (x : α) : result (pure x : Attempt ε α) runner past = .ok x := rfl

@[simp] theorem events_pure (x : α) : events (pure x : Attempt ε α) runner past = [] := rfl

theorem result_bind (a : Attempt ε α) (f : α → Attempt ε β) :
    (a >>= f).result runner past =
      match a.result runner past with
      | .ok x => (f x).result runner (past ++ a.events runner past)
      | .error e => .error e := by
  change Session.result (ExceptT.run a >>= ExceptT.bindCont f) runner past = _
  rw [Session.result_bind, result]
  cases Session.result (ExceptT.run a) runner past <;> rfl

theorem events_bind (a : Attempt ε α) (f : α → Attempt ε β) :
    (a >>= f).events runner past =
      match a.result runner past with
      | .ok x => a.events runner past ++ (f x).events runner (past ++ a.events runner past)
      | .error _ => a.events runner past := by
  change Session.events (ExceptT.run a >>= ExceptT.bindCont f) runner past = _
  rw [Session.events_bind, result]
  cases Session.result (ExceptT.run a) runner past with
  | ok x => rfl
  | error e => exact List.append_nil _

theorem result_bind_of_ok {a : Attempt ε α} {x : α} (h : a.result runner past = .ok x)
    (f : α → Attempt ε β) :
    (a >>= f).result runner past = (f x).result runner (past ++ a.events runner past) := by
  rw [result_bind, h]

theorem events_bind_of_ok {a : Attempt ε α} {x : α} (h : a.result runner past = .ok x)
    (f : α → Attempt ε β) :
    (a >>= f).events runner past =
      a.events runner past ++ (f x).events runner (past ++ a.events runner past) := by
  rw [events_bind, h]

theorem result_bind_of_error {a : Attempt ε α} {e : ε} (h : a.result runner past = .error e)
    (f : α → Attempt ε β) : (a >>= f).result runner past = .error e := by
  rw [result_bind, h]

theorem events_bind_of_error {a : Attempt ε α} {e : ε} (h : a.result runner past = .error e)
    (f : α → Attempt ε β) : (a >>= f).events runner past = a.events runner past := by
  rw [events_bind, h]

/-! ### Single steps -/

@[simp] theorem result_run (c : Command) :
    (run c).result runner past = runner (commandsOf past) c := rfl

@[simp] theorem events_run (c : Command) :
    (run c).events runner past = [.ran c (runner (commandsOf past) c)] := rfl

@[simp] theorem result_ofExcept (e : Except ε α) : (ofExcept e).result runner past = e := rfl

@[simp] theorem events_ofExcept (e : Except ε α) : (ofExcept e).events runner past = [] := rfl

@[simp] theorem result_mapFailure (f : ε → ε') (a : Attempt ε α) :
    (mapFailure f a).result runner past = (a.result runner past).mapError f := rfl

@[simp] theorem events_mapFailure (f : ε → ε') (a : Attempt ε α) :
    (mapFailure f a).events runner past = a.events runner past := List.append_nil _

@[simp] theorem result_always (s : Session α) :
    (always s : Attempt ε α).result runner past = .ok (s.result runner past) := rfl

@[simp] theorem events_always (s : Session α) :
    (always s : Attempt ε α).events runner past = s.events runner past := List.append_nil _

@[simp] theorem result_display (l : Line) :
    (display l : Attempt ε Unit).result runner past = .ok () := rfl

@[simp] theorem events_display (l : Line) :
    (display l : Attempt ε Unit).events runner past = [.shown l] := rfl

/-- Behind an attempt, what judges its value adds nothing. -/
theorem events_judge (a : Attempt ε α) (judge : α → Except ε β) :
    (do ofExcept (judge (← a))).events runner past = a.events runner past := by
  rw [events_bind]
  cases a.result runner past with
  | ok x => exact List.append_nil _
  | error e => rfl

theorem events_runChecked (c : Command) :
    (runChecked c).events runner past = [.ran c (runner (commandsOf past) c)] :=
  events_judge (run c) _

end Attempt

end Rollout
