import Rollout.Duration

/-!
# Durations as one number

A duration in the largest of the units `s`, `ms`, `µs` and `ns` in which it is at least one, with
as many decimals as it needs.
-/

namespace Rollout.Duration

/-- `n` with leading zeros, in at least `width` digits. -/
def padded (width n : Nat) : String :=
  let digits := toString n
  String.ofList (List.replicate (width - digits.length) '0') ++ digits

/-- Whole and decimal part, the latter of `width` digits, without the zeros at its end. -/
def decimal (whole fraction width : Nat) : String :=
  let digits := ((padded width fraction).toList.reverse.dropWhile (· = '0')).reverse
  if digits.isEmpty then toString whole else toString whole ++ "." ++ String.ofList digits

/-- The duration as one number with its unit, such as `1.5s` or `100ms`. -/
def short (d : Duration) : String :=
  if d.seconds ≠ 0 then decimal d.seconds d.subsecond 9 ++ "s"
  else if 1000000 ≤ d.nanos then decimal (d.nanos / 1000000) (d.nanos % 1000000) 6 ++ "ms"
  else if 1000 ≤ d.nanos then decimal (d.nanos / 1000) (d.nanos % 1000) 3 ++ "µs"
  else toString d.nanos ++ "ns"

end Rollout.Duration
