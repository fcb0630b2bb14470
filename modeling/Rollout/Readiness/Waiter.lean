import Rollout.Readiness.Probe

/-!
# Waiting for workloads

A workload is looked at, at once and then after every interval, until it is ready or its time is up;
the last look is at the end of that time. A look that fails ends the wait and is not repeated.

The time of a wait is that of its pauses: a look takes no time here, and however long its command
runs counts against no timeout.

The wait ends since each pause brings it nearer to its limit: `Waiter.pause` is positive and never
goes past the limit.
-/

namespace Rollout

/-- How a wait ends when no look fails. -/
inductive Wait
  | satisfied (attempts : Nat) (elapsed : Duration) (detail : String)
  | timedOut (attempts : Nat) (elapsed : Duration) (status : String)
  deriving DecidableEq, Repr

/-- What looks at workloads, and how often. -/
structure Waiter where
  probe : Probe
  interval : Duration

namespace Waiter

/-- The shortest pause between two looks. -/
def leastPause : Duration := .ofMillis 1

/-- How long a wait for a condition may take. -/
def limit (c : Condition) : Duration := c.timeout.min Condition.maxTimeout

/-- The pause before the next look: the interval, or what is left of the time. -/
def pause (interval limit elapsed : Duration) : Duration :=
  ⟨min (max interval.nanos leastPause.nanos) (limit.nanos - elapsed.nanos)⟩

/-- A pause before the limit brings the wait nearer to it. -/
theorem pause_lt {interval limit elapsed : Duration} (h : elapsed.nanos < limit.nanos) :
    limit.nanos - (elapsed + pause interval limit elapsed).nanos < limit.nanos - elapsed.nanos := by
  have hleast : 0 < leastPause.nanos := by decide
  simp only [Duration.nanos_add, pause]
  omega

/-- A pause does not go past the limit. -/
theorem add_pause_le {interval limit elapsed : Duration} (h : elapsed.nanos ≤ limit.nanos) :
    (elapsed + pause interval limit elapsed).nanos ≤ limit.nanos := by
  simp only [Duration.nanos_add, pause]
  omega

/-- Looks once, and goes on waiting where that is not the end. -/
def waitFrom (w : Waiter) (c : Condition) (attempts : Nat) (elapsed : Duration) :
    Attempt Failure Wait := do
  Attempt.always (Session.check c)
  let status ← w.probe c
  if status.ready then return .satisfied (attempts + 1) elapsed status.detail
  else if h : elapsed.nanos < (limit c).nanos then
    let d := pause w.interval (limit c) elapsed
    Attempt.always (Session.sleep d)
    waitFrom w c (attempts + 1) (elapsed + d)
  else return .timedOut (attempts + 1) elapsed status.detail
termination_by (limit c).nanos - elapsed.nanos
decreasing_by exact pause_lt h

/-- Waits until a condition is satisfied or its time is up. -/
def waitFor (w : Waiter) (c : Condition) : Attempt Failure Wait := waitFrom w c 0 .zero

/-- The failure of a workload that was not ready in time. -/
def timeoutFailure (c : Condition) (attempts : Nat) (status : String) : Failure :=
  (Failure.readiness FailureCode.readinessTimeout
      ("not " ++ c.predicate.name ++ " after " ++ c.timeout.describe ++ " (" ++ toString attempts ++
        " checks, last status: " ++ status ++ ")") c.workload).withRemediation
    ("kubectl describe " ++ c.kind.name ++ " " ++ c.name ++ " -n " ++ c.space)

/-- Waits until a condition is satisfied; that its time is up is a failure. The answer is the detail
of the last look. -/
def require (w : Waiter) (c : Condition) : Attempt Failure String := do
  match ← w.waitFor c with
  | .satisfied _ _ detail => return detail
  | .timedOut attempts _ status => Attempt.fail (timeoutFailure c attempts status)

end Waiter

end Rollout
