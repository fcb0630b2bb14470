import Rollout.Duration
import Rollout.Text.Blank

/-!
# Durations in words

`1h 30m`, `2days`, `1.5s`: a duration is written as amounts with units, one behind the other, which
are added up. `Duration.parse?` reads such a text and `Duration.describe` writes the one that names
each unit at most once, largest first.

An amount is a whole number, or one with a fraction that comes out even: in nanoseconds for units
below the hour, in seconds from the hour up. White space may stand anywhere outside a unit's name.
Everything is counted in 64 bits, and a text that needs more is refused.
-/

namespace Rollout.Duration

/-- The units of time that a text may use. -/
inductive TimeUnit
  | nanosecond | microsecond | millisecond | second | minute | hour | day | week | month | year
  deriving DecidableEq, Repr

namespace TimeUnit

/-- The unit of a name. -/
def ofName? (name : String) : Option TimeUnit :=
  if ["ns", "nsec", "nanos"].contains name then some .nanosecond
  else if ["us", "usec", "µs"].contains name then some .microsecond
  else if ["ms", "msec", "millis"].contains name then some .millisecond
  else if ["s", "sec", "secs", "second", "seconds"].contains name then some .second
  else if ["m", "min", "mins", "minute", "minutes"].contains name then some .minute
  else if ["h", "hr", "hrs", "hour", "hours"].contains name then some .hour
  else if ["d", "day", "days"].contains name then some .day
  else if ["w", "wk", "wks", "week", "weeks"].contains name then some .week
  else if ["M", "month", "months"].contains name then some .month
  else if ["y", "yr", "yrs", "year", "years"].contains name then some .year
  else none

/-- How many grains of the given size make one unit: a month is 30.44 days, a year 365.25. -/
def nanos : TimeUnit → Nat
  | nanosecond => 1
  | microsecond => 1000
  | millisecond => 1000000
  | second => 1000000000
  | minute => 60 * 1000000000
  | hour => 3600 * 1000000000
  | day => 86400 * 1000000000
  | week => 604800 * 1000000000
  | month => 2630016 * 1000000000
  | year => 31557600 * 1000000000

/-- The grain in which whole amounts of the unit are counted: below the second nanoseconds,
from the second up seconds. -/
def wholeGrain : TimeUnit → Nat
  | nanosecond | microsecond | millisecond => 1
  | _ => 1000000000

/-- The grain in which fractions of the unit are counted: up to the minute nanoseconds, from the
hour up seconds. A nanosecond has no fractions. -/
def fractionGrain? : TimeUnit → Option Nat
  | nanosecond => none
  | microsecond | millisecond | second | minute => some 1
  | _ => some 1000000000

end TimeUnit

/-- The first number that 64 bits do not hold. -/
def wordLimit : Nat := UInt64.size

/-- A number of grains, if 64 bits hold it. -/
def counted (n : Nat) : Option Nat := if n < wordLimit then some n else none

/-- A fraction read digit by digit: `digits / scale`. -/
structure Fraction where
  digits : Nat
  scale : Nat
  deriving DecidableEq, Repr

/-- Adds a number of grains, where the nanoseconds in hand and the seconds of the sum have to
fit into 64 bits. -/
def addGrains (total : Duration) (count grain : Nat) : Option Duration :=
  if grain = 1 ∧ wordLimit ≤ total.subsecond + count then none
  else
    let sum : Duration := ⟨total.nanos + count * grain⟩
    if sum.seconds < wordLimit then some sum else none

/-- Adds an amount of a unit. -/
def addAmount (total : Duration) (whole : Nat) (fraction : Option Fraction) (unit : TimeUnit) :
    Option Duration := do
  let grains ← counted (whole * (unit.nanos / unit.wholeGrain))
  let total ← addGrains total grains unit.wholeGrain
  match fraction with
  | none => some total
  | some part =>
    let grain ← unit.fractionGrain?
    let grains ← counted (part.digits * (unit.nanos / grain))
    if grains % part.scale = 0 then addGrains total (grains / part.scale) grain else none

/-- How far the text has been read. -/
inductive Reading
  /-- Between amounts; the flag says whether there has been one. -/
  | gap (started : Bool)
  /-- In a whole number. -/
  | whole (n : Nat)
  /-- Behind a decimal point. -/
  | fraction (n : Nat) (part : Fraction)
  /-- In the name of a unit, held backwards. -/
  | unit (n : Nat) (part : Option Fraction) (name : List Char)

/-- The value of a decimal digit. -/
def digit? (c : Char) : Option Nat := if c.isDigit then some (c.toNat - 48) else none

/-- A character that a unit's name may hold. -/
def isUnitLetter (c : Char) : Bool := c.isAlpha || c = 'µ'

/-- Ends a unit's name and adds its amount. -/
def close (total : Duration) (n : Nat) (part : Option Fraction) (name : List Char) :
    Option Duration := do
  addAmount total n part (← TimeUnit.ofName? (String.ofList name.reverse))

/-- Reads one character. -/
def read (total : Duration) (state : Reading) (c : Char) : Option (Duration × Reading) :=
  match state with
  | .gap started =>
    match digit? c with
    | some d => some (total, .whole d)
    | none => if Text.isBlank c then some (total, .gap started) else none
  | .whole n =>
    match digit? c with
    | some d => (counted (n * 10 + d)).map fun n => (total, .whole n)
    | none =>
      if Text.isBlank c then some (total, .whole n)
      else if isUnitLetter c then some (total, .unit n none [c])
      else if c = '.' then some (total, .fraction n ⟨0, 1⟩)
      else none
  | .fraction n part =>
    match digit? c with
    | some d => (counted (part.scale * 10)).map fun scale =>
        (total, .fraction n ⟨part.digits * 10 + d, scale⟩)
    | none =>
      if Text.isBlank c then some (total, .fraction n part)
      else if isUnitLetter c ∧ part.scale ≠ 1 then some (total, .unit n (some part) [c])
      else none
  | .unit n part name =>
    match digit? c with
    | some d => (close total n part name).map fun total => (total, .whole d)
    | none =>
      if Text.isBlank c then (close total n part name).map fun total => (total, .gap true)
      else if isUnitLetter c then some (total, .unit n part (c :: name))
      else none

/-- Reads the characters to their end. -/
def readAll (total : Duration) (state : Reading) : List Char → Option Duration
  | [] =>
    match state with
    | .gap started => if started then some total else none
    | .whole _ | .fraction .. => none
    | .unit n part name => close total n part name
  | c :: rest => do
    let (total, state) ← read total state c
    readAll total state rest

/-- The duration that a text spells. A lone zero needs no unit. -/
def parse? (s : String) : Option Duration :=
  if s = "0" then some zero else readAll zero (.gap false) s.toList

/-! ### Writing -/

/-- The amounts of each unit, largest unit first, with the unit's name. -/
def parts (d : Duration) : List (Nat × String) :=
  let named (n : Nat) (name : String) : Nat × String := (n, if n = 1 then name else name ++ "s")
  let inYear := d.seconds % 31557600
  let inMonth := inYear % 2630016
  let inDay := inMonth % 86400
  [named (d.seconds / 31557600) "year", named (inYear / 2630016) "month",
    named (inMonth / 86400) "day", (inDay / 3600, "h"), (inDay % 3600 / 60, "m"),
    (inDay % 60, "s"), (d.subsecond / 1000000, "ms"), (d.subsecond / 1000 % 1000, "us"),
    (d.subsecond % 1000, "ns")]

/-- The duration in words, such as `1day 2h 30m`. -/
def describe (d : Duration) : String :=
  if d.nanos = 0 then "0s"
  else " ".intercalate ((d.parts.filter (·.1 ≠ 0)).map fun (n, name) => toString n ++ name)

end Rollout.Duration
