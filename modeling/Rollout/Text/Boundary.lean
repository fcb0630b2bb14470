/-!
# Runs of code points

A property of characters is written as the ascending list of the code points at which it changes:
it fails before the first, holds from the first to just before the second, fails again from the
second, and so on.
-/

namespace Rollout.Text

/-- Whether `n` lies in one of the runs that `bounds` delimits: an odd number of changes has been
passed. -/
def withinRuns (bounds : List Nat) (n : Nat) : Bool :=
  (bounds.takeWhile (· ≤ n)).length % 2 == 1

end Rollout.Text
