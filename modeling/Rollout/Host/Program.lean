import Rollout.Host.Effect
import Rollout.Host.Format

/-!
# Small programs

The programs of the host other than its shell: one that copies, two that only exit, one that writes
what it is told, one that waits.
-/

namespace Rollout.Host

/-- The programs of the host. -/
inductive Program
  | shell | copy | succeed | fail | print | sleep
  deriving DecidableEq, Repr

namespace Program

/-- The name of a program. -/
def name : Program → String
  | shell => "sh"
  | copy => "cat"
  | succeed => "true"
  | fail => "false"
  | print => "printf"
  | sleep => "sleep"

/-- The program of a name. -/
def ofName? (name : String) : Option Program :=
  [shell, copy, succeed, fail, print, sleep].find? fun p => p.name = name

end Program

/-! ### Copying -/

/-- The bytes at a path; the empty device has none. -/
def readable? (files : Files) (path : String) : Option (List UInt8) :=
  if path = "/dev/null" then some [] else files.readBytes? path

/-- The copy of what some arguments name, on top of an effect; a single dash names the input. -/
def copyFrom (i : Invocation) : List String → Effect → Effect
  | [], e => e
  | arg :: rest, e =>
    let e :=
      if arg = "-" then { e with stdout := e.stdout ++ e.rest, rest := [] }
      else
        match readable? i.files arg with
        | some bytes => { e with stdout := e.stdout ++ bytes }
        | none =>
          let reason := if i.files.exists? arg then "Is a directory" else "No such file or directory"
          { e with
            stderr := e.stderr ++ Text.Utf8.encode ("cat: " ++ arg ++ ": " ++ reason ++ "\n")
            ending := .exited 1 }
    copyFrom i rest e

/-- Copies files, or the input where none is named. -/
def copy (i : Invocation) : Effect :=
  let args := i.args.filter fun arg => arg ≠ "--" ∧ arg ≠ "-u"
  copyFrom i (if args.isEmpty then ["-"] else args) (.quiet i 0)

/-! ### Waiting -/

/-- The seconds of a unit. -/
def unitSeconds? : List Char → Option Nat
  | [] | ['s'] => some 1
  | ['m'] => some 60
  | ['h'] => some 3600
  | ['d'] => some 86400
  | _ => none

/-- The time that an argument spells: a decimal with a unit. -/
def interval? (arg : String) : Option Duration := do
  let cs := arg.toList
  let whole := cs.takeWhile Char.isDigit
  let rest := cs.drop whole.length
  let fraction := match rest with
    | '.' :: rest => rest.takeWhile Char.isDigit
    | _ => []
  let behind := match rest with
    | '.' :: rest => rest.drop fraction.length
    | rest => rest
  let digits ← Text.digitsValue? 10 (whole ++ fraction)
  let unit ← unitSeconds? behind
  return ⟨digits * unit * Duration.nanosPerSecond / Nat.pow 10 fraction.length⟩

/-- Waits for the sum of some times. -/
def sleep (i : Invocation) : Effect :=
  let refuse (message : String) : Effect :=
    .complain i ("sleep: " ++ message ++ "\nTry 'sleep --help' for more information.") 1
  if i.args.isEmpty then refuse "missing operand"
  else
    match i.args.find? fun arg => (interval? arg).isNone with
    | some arg => refuse ("invalid time interval '" ++ arg ++ "'")
    | none =>
      let total := (i.args.filterMap interval?).foldl (· + ·) .zero
      { Effect.quiet i 0 with elapsed := total }

/-! ### Writing -/

/-- Writes what a format makes of some arguments. -/
def print (i : Invocation) : Effect :=
  match i.args with
  | [] => .complain i "printf: missing operand\nTry 'printf --help' for more information." 1
  | format :: args =>
    let (bytes, refused) := Format.render format args
    let complaints := refused.map fun arg => "printf: '" ++ arg ++ "': expected a numeric value\n"
    { Effect.print i bytes with
      stderr := Text.Utf8.encode (String.join complaints)
      ending := .exited (if refused.isEmpty then 0 else 1) }

/-- What a program other than the shell does. -/
def Program.run (p : Program) (shell : Invocation → Effect) (i : Invocation) : Effect :=
  match p with
  | .shell => shell i
  | .copy => Host.copy i
  | .succeed => .quiet i 0
  | .fail => .quiet i 1
  | .print => Host.print i
  | .sleep => Host.sleep i

end Rollout.Host
