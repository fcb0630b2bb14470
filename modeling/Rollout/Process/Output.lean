import Rollout.Process.Command
import Rollout.Process.Error
import Rollout.Text.Blank

/-!
# What a command leaves behind

How a command ended, what it wrote and how long it took. `Output.success?` holds a command to its
exit status: only an output of success passes, every other becomes an error.
-/

namespace Rollout

/-- How a command ended. -/
inductive ExitStatus
  | success
  | error (exit : Int32)
  | timeout
  | signal (number : Int32)
  deriving DecidableEq, Repr

namespace ExitStatus

/-- The status of an exit number. -/
def ofExit (n : Int32) : ExitStatus := if n = 0 then success else error n

/-- The exit number, where there is one. -/
def exit? : ExitStatus → Option Int32
  | success => some 0
  | error n => some n
  | timeout | signal _ => none

end ExitStatus

/-- What a command left behind. -/
structure Output where
  status : ExitStatus
  stdout : String
  stderr : String
  duration : Duration
  deriving DecidableEq, Repr

/-- What running a command answers. -/
abbrev Answer : Type := Except ProcessError Output

namespace Output

/-- Whether the command succeeded. -/
def succeeded (o : Output) : Bool := o.status = .success

/-- The output of a command that succeeded; any other is an error. -/
def success? (o : Output) (c : Command) : Answer :=
  match o.status with
  | .success => .ok o
  | .error exit => .error (.failed c.line exit (Text.trim o.stderr))
  | .signal number => .error (.signal number)
  | .timeout => .error (.timeout o.duration)

/-- Exactly an output of success passes. -/
theorem success?_eq_ok_iff (o p : Output) (c : Command) :
    o.success? c = .ok p ↔ o.status = .success ∧ p = o := by
  cases h : o.status <;> simp [success?, h, eq_comm]

end Output

end Rollout
