import Rollout.Duration
import Rollout.Text.ShellWords

/-!
# Commands

A program with its arguments, variables on top of the inherited environment, a limit of time and
what it reads. Arguments are words of their own and never joined, so that they need no quoting;
`Command.line` joins them only to be shown.
-/

namespace Rollout

/-- A command to be run. -/
structure Command where
  program : String
  args : List String
  /-- Extra variables, each name once. -/
  env : List (String × String) := []
  timeout : Option Duration := none
  stdin : Option String := none
  deriving DecidableEq, Repr

namespace Command

/-- A program with arguments. -/
def of (program : String) (args : List String) : Command := { program, args }

/-- Appends an argument. -/
def arg (c : Command) (a : String) : Command := { c with args := c.args ++ [a] }

/-- Appends arguments. -/
def addArgs (c : Command) (as : List String) : Command := { c with args := c.args ++ as }

/-- Appends `--name=value`. -/
def flag (c : Command) (name value : String) : Command := c.arg ("--" ++ name ++ "=" ++ value)

/-- Appends `--name=value` where there is a value. -/
def flag? (c : Command) (name : String) : Option String → Command
  | some value => c.flag name value
  | none => c

/-- Appends `--name` where it is wanted. -/
def switch (c : Command) (name : String) (wanted : Bool) : Command :=
  if wanted then c.arg ("--" ++ name) else c

/-- Sets a variable; the last value set counts. -/
def withVariable (c : Command) (name value : String) : Command :=
  { c with env := c.env.filter (·.1 ≠ name) ++ [(name, value)] }

/-- Limits the time that the command may take. -/
def within (c : Command) (d : Duration) : Command := { c with timeout := some d }

/-- Says what the command reads. -/
def reading (c : Command) (input : String) : Command := { c with stdin := some input }

/-- The command line as an operator would type it. -/
def line (c : Command) : String := Text.shellLine (c.program :: c.args)

end Command

end Rollout
