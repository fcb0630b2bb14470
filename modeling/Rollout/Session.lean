import Rollout.Line
import Rollout.Process.Output
import Rollout.Readiness.Condition
import Rollout.Stage.Id

/-!
# Sessions

A session is a piece of a run: it runs commands, shows lines to the operator, waits, and has a
result. What it does is recorded as *events*, oldest first. Nothing else happens: a command is
answered by a *runner*, which knows the commands that were run before, and time passes only by
waiting: a command takes none, whatever duration its output tells. Two more events mark where the
work of a stage begins and where a workload is looked at.

A session is thus a function of the runner and of the past. `Session.run`, `Session.display` and
`Session.sleep` each add one event; running one session behind another appends what the second does
to what the first did (`events_bind`).
-/

namespace Rollout

/-- What happens in a run. -/
inductive Event
  | shown (line : Line)
  | ran (command : Command) (answer : Answer)
  | slept (d : Duration)
  /-- The work of a stage begins. -/
  | began (stage : StageId)
  /-- A workload is looked at. -/
  | checked (condition : Condition)
  deriving Repr

namespace Event

/-- The command that was run. -/
def command? : Event → Option Command
  | ran command _ => some command
  | _ => none

/-- The line that was shown. -/
def line? : Event → Option Line
  | shown line => some line
  | _ => none

/-- The stage whose work begins. -/
def stage? : Event → Option StageId
  | began stage => some stage
  | _ => none

/-- The workload that is looked at. -/
def condition? : Event → Option Condition
  | checked condition => some condition
  | _ => none

/-- The time that was waited. -/
def pause : Event → Duration
  | slept d => d
  | _ => .zero

end Event

/-- The commands that were run, oldest first. -/
def commandsOf (events : List Event) : List Command := events.filterMap Event.command?

/-- The lines that were shown, oldest first. -/
def linesOf (events : List Event) : List Line := events.filterMap Event.line?

/-- The stages whose work has begun, oldest first. -/
def stagesOf (events : List Event) : List StageId := events.filterMap Event.stage?

/-- The workloads that were looked at, oldest first. -/
def checksOf (events : List Event) : List Condition := events.filterMap Event.condition?

/-- The time that has passed. -/
def timeOf (events : List Event) : Duration := events.foldl (fun t e => t + e.pause) .zero

@[simp] theorem commandsOf_append (before after : List Event) :
    commandsOf (before ++ after) = commandsOf before ++ commandsOf after := by
  simp [commandsOf]

@[simp] theorem linesOf_append (before after : List Event) :
    linesOf (before ++ after) = linesOf before ++ linesOf after := by
  simp [linesOf]

@[simp] theorem stagesOf_append (before after : List Event) :
    stagesOf (before ++ after) = stagesOf before ++ stagesOf after := by
  simp [stagesOf]

@[simp] theorem checksOf_append (before after : List Event) :
    checksOf (before ++ after) = checksOf before ++ checksOf after := by
  simp [checksOf]

/-- What answers a command, given the commands before it. -/
abbrev Runner : Type := List Command → Command → Answer

/-- A piece of a run: its result and what it does, given what answers its commands and what has
happened before. -/
def Session (α : Type) : Type := Runner → List Event → α × List Event

namespace Session

variable {α β : Type}

/-- The result of a session. -/
def result (s : Session α) (runner : Runner) (past : List Event) : α := (s runner past).1

/-- What a session does. -/
def events (s : Session α) (runner : Runner) (past : List Event) : List Event :=
  (s runner past).2

/-- Does nothing. -/
protected def pure (a : α) : Session α := fun _ _ => (a, [])

/-- One session behind another. -/
protected def bind (s : Session α) (f : α → Session β) : Session β := fun runner past =>
  let (a, before) := s runner past
  let (b, after) := f a runner (past ++ before)
  (b, before ++ after)

instance : Monad Session where
  pure := Session.pure
  bind := Session.bind

/-- Runs a command. -/
def run (c : Command) : Session Answer := fun runner past =>
  let answer := runner (commandsOf past) c
  (answer, [.ran c answer])

/-- Shows a line. -/
def display (l : Line) : Session Unit := fun _ _ => ((), [.shown l])

/-- Waits. -/
def sleep (d : Duration) : Session Unit := fun _ _ => ((), [.slept d])

/-- Marks that the work of a stage begins. -/
def begin (stage : StageId) : Session Unit := fun _ _ => ((), [.began stage])

/-- Marks that a workload is looked at. -/
def check (condition : Condition) : Session Unit := fun _ _ => ((), [.checked condition])

/-- What has happened before. -/
def past : Session (List Event) := fun _ past => (past, [])

/-- The time that has passed. -/
def clock : Session Duration := fun _ past => (timeOf past, [])

/-! ### Laws -/

@[simp] theorem result_pure (a : α) (runner : Runner) (past : List Event) :
    result (pure a : Session α) runner past = a := rfl

@[simp] theorem events_pure (a : α) (runner : Runner) (past : List Event) :
    events (pure a : Session α) runner past = [] := rfl

@[simp] theorem result_bind (s : Session α) (f : α → Session β) (runner : Runner)
    (past : List Event) :
    result (s >>= f) runner past =
      (f (s.result runner past)).result runner (past ++ s.events runner past) := rfl

@[simp] theorem events_bind (s : Session α) (f : α → Session β) (runner : Runner)
    (past : List Event) :
    events (s >>= f) runner past =
      s.events runner past ++
        (f (s.result runner past)).events runner (past ++ s.events runner past) := rfl

@[simp] theorem result_map (f : α → β) (s : Session α) (runner : Runner) (past : List Event) :
    result (f <$> s) runner past = f (s.result runner past) := rfl

@[simp] theorem events_map (f : α → β) (s : Session α) (runner : Runner) (past : List Event) :
    events (f <$> s) runner past = s.events runner past := List.append_nil _

@[simp] theorem result_run (c : Command) (runner : Runner) (past : List Event) :
    result (run c) runner past = runner (commandsOf past) c := rfl

@[simp] theorem events_run (c : Command) (runner : Runner) (past : List Event) :
    events (run c) runner past = [.ran c (runner (commandsOf past) c)] := rfl

@[simp] theorem result_display (l : Line) (runner : Runner) (past : List Event) :
    result (display l) runner past = () := rfl

@[simp] theorem events_display (l : Line) (runner : Runner) (past : List Event) :
    events (display l) runner past = [.shown l] := rfl

@[simp] theorem events_sleep (d : Duration) (runner : Runner) (past : List Event) :
    events (sleep d) runner past = [.slept d] := rfl

@[simp] theorem events_begin (stage : StageId) (runner : Runner) (past : List Event) :
    events (begin stage) runner past = [.began stage] := rfl

@[simp] theorem events_check (condition : Condition) (runner : Runner) (past : List Event) :
    events (check condition) runner past = [.checked condition] := rfl

@[simp] theorem result_clock (runner : Runner) (past : List Event) :
    result clock runner past = timeOf past := rfl

@[simp] theorem events_clock (runner : Runner) (past : List Event) :
    events clock runner past = [] := rfl

theorem ext {s t : Session α} (hr : ∀ runner past, s.result runner past = t.result runner past)
    (he : ∀ runner past, s.events runner past = t.events runner past) : s = t := by
  funext runner past
  exact Prod.ext (hr runner past) (he runner past)

instance : LawfulMonad Session :=
  LawfulMonad.mk' Session
    (fun _ => ext (fun _ _ => rfl) (fun runner past => List.append_nil _))
    (fun a f => ext (fun runner past => by simp) (fun runner past => by simp))
    (fun s f g => ext (fun runner past => by simp) (fun runner past => by simp))

end Session

/-- A session that may fail. -/
abbrev Attempt (ε α : Type) : Type := ExceptT ε Session α

namespace Attempt

variable {ε ε' α : Type}

/-- An attempt whose outcome is known. -/
def ofExcept (e : Except ε α) : Attempt ε α := ExceptT.mk (pure e)

/-- Runs a command; what keeps it from being carried out is a failure. -/
def run (c : Command) : Attempt ProcessError Output := ExceptT.mk (Session.run c)

/-- Runs a command that has to succeed. -/
def runChecked (c : Command) : Attempt ProcessError Output := do
  let output ← run c
  ofExcept (output.success? c)

/-- A session that cannot fail. -/
def always (s : Session α) : Attempt ε α := ExceptT.lift s

/-- Shows a line. -/
def display (l : Line) : Attempt ε Unit := always (Session.display l)

/-- Fails. -/
def fail (e : ε) : Attempt ε α := ofExcept (.error e)

/-- Says otherwise how an attempt failed. -/
def mapFailure (f : ε → ε') (a : Attempt ε α) : Attempt ε' α :=
  ExceptT.mk (Except.mapError f <$> ExceptT.run a)

end Attempt

end Rollout
