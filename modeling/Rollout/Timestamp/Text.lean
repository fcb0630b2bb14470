import Rollout.Text.Blank
import Rollout.Text.Digits
import Rollout.Text.Search
import Rollout.Timestamp

/-!
# Timestamps as text

A timestamp is written as a date and a time with `T` between them and `Z` behind them, and with as
many decimals as it needs out of none, three, six and nine. Reading is more generous: numbers may
have fewer digits, blanks may stand between the parts, and the time may lie in another zone.
-/

namespace Rollout.Timestamp

/-! ### Writing -/

/-- A year: four digits, or as many as it takes behind a sign. -/
def yearText (y : Int) : String :=
  if 0 ≤ y ∧ y ≤ 9999 then Duration.padded 4 y.toNat
  else (if y < 0 then "-" else "+") ++ Duration.padded 4 y.natAbs

/-- The decimals of a second. -/
def decimals (nanos : Nat) : String :=
  if nanos = 0 then ""
  else if nanos % 1000000 = 0 then "." ++ Duration.padded 3 (nanos / 1000000)
  else if nanos % 1000 = 0 then "." ++ Duration.padded 6 (nanos / 1000)
  else "." ++ Duration.padded 9 nanos

/-- The timestamp as a text. -/
def text (t : Timestamp) : String :=
  let two := Duration.padded 2
  yearText t.year ++ "-" ++ two t.month ++ "-" ++ two t.day ++ "T" ++ two t.hour ++ ":" ++
    two t.minute ++ ":" ++ two t.second ++ decimals t.nanos ++ "Z"

/-! ### Reading -/

/-- Reads a number of at most `width` digits, behind blanks. -/
def number? (width : Nat) (cs : List Char) : Option (Nat × List Char) :=
  let cs := Text.dropBlanks cs
  let digits := (cs.take width).takeWhile Char.isDigit
  (Text.digitsValue? 10 digits).map (·, cs.drop digits.length)

/-- Reads a year: up to four digits, or any number of them behind a sign. -/
def year? (cs : List Char) : Option (Int × List Char) :=
  let signed (negative : Bool) (rest : List Char) : Option (Int × List Char) :=
    let digits := rest.takeWhile Char.isDigit
    (Text.digitsValue? 10 digits).map fun n =>
      (if negative then -(n : Int) else n, rest.drop digits.length)
  match Text.dropBlanks cs with
  | '-' :: rest => signed true rest
  | '+' :: rest => signed false rest
  | cs => (number? 4 cs).map fun (n, rest) => ((n : Int), rest)

/-- The text behind an expected character, which blanks may precede. -/
def after? (c : Char) (cs : List Char) : Option (List Char) :=
  match Text.dropBlanks cs with
  | d :: rest => if d = c then some rest else none
  | [] => none

/-- Reads the decimals of a second, if there are any, as nanoseconds; those behind the ninth do not
count. -/
def decimals? (cs : List Char) : Option (Nat × List Char) :=
  match cs with
  | '.' :: rest =>
    let digits := rest.takeWhile Char.isDigit
    (Text.digitsValue? 10 (digits.take 9)).map fun n =>
      (n * Nat.pow 10 (9 - digits.length), rest.drop digits.length)
  | cs => some (0, cs)

/-- Reads a number of exactly two digits. -/
def two? : List Char → Option (Nat × List Char)
  | a :: b :: rest =>
    if a.isDigit && b.isDigit then (Text.digitsValue? 10 [a, b]).map (·, rest) else none
  | _ => none

/-- Reads the distance of a zone from universal time behind its sign, in minutes. -/
def distance? (cs : List Char) : Option (Nat × List Char) := do
  let (hours, cs) ← two? cs
  let (minutes, cs) ← two? (cs.dropWhile fun c => c = ':' || Text.isBlank c)
  if hours < 24 ∧ minutes < 60 then some (hours * 60 + minutes, cs) else none

/-- Reads a zone: how many minutes its time is ahead of universal time. -/
def zone? (cs : List Char) : Option (Int × List Char) :=
  if Text.sameIgnoringCase (String.ofList (cs.take 3)) "UTC" then some (0, cs.drop 3)
  else
    match cs with
    | c :: rest =>
      if c = 'Z' ∨ c = 'z' then some (0, rest)
      else if c = '+' then (distance? rest).map fun d => ((d.1 : Int), d.2)
      else if c = '-' ∨ c = '−' then (distance? rest).map fun d => (-(d.1 : Int), d.2)
      else none
    | [] => none

/-- Reads a date. -/
def date? (cs : List Char) : Option ((Int × Nat × Nat) × List Char) := do
  let (year, cs) ← year? cs
  let (month, cs) ← number? 2 (← after? '-' cs)
  let (day, cs) ← number? 2 (← after? '-' cs)
  if isDate year month day then some ((year, month, day), cs) else none

/-- Reads a time of day with its nanoseconds. -/
def time? (cs : List Char) : Option ((Nat × Nat × Nat × Nat) × List Char) := do
  let (hour, cs) ← number? 2 cs
  let (minute, cs) ← number? 2 (← after? ':' cs)
  let (second, cs) ← number? 2 (← after? ':' cs)
  let (nanos, cs) ← decimals? cs
  if hour < 24 ∧ minute < 60 ∧ second ≤ 60 then some ((hour, minute, second, nanos), cs) else none

/-- The timestamp that a text spells. -/
def parse? (s : String) : Option Timestamp := do
  let ((year, month, day), cs) ← date? s.toList
  match cs with
  | [] => none
  | c :: cs =>
    if c = 'T' ∨ c = 't' ∨ c = ' ' then
      let ((hour, minute, second, nanos), cs) ← time? cs
      let (ahead, cs) ← zone? (Text.dropBlanks cs)
      let t := addMinutes ⟨year, month, day, hour, minute, second, nanos⟩ (-ahead)
      if Text.dropBlanks cs = [] ∧ isDate t.year t.month t.day then some t else none
    else none

end Rollout.Timestamp
