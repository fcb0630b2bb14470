import Rollout.Host.Search

/-!
# What a shell holds

The state of a shell while it runs a script: its variables, its arguments, the status of the last
command, and what has been written so far. Variables of its own are not given to the programs that it
starts; a variable that was given to the shell itself is, with its new value where it is set.
-/

namespace Rollout.Host.Shell

/-- The number that stands for the shell itself. -/
def ownNumber : String := "4242"

/-- What a shell holds while it runs. -/
structure State where
  /-- The variables that programs are given. -/
  env : Environment
  /-- The other variables. -/
  own : Environment
  files : Files
  /-- The name of the script and its arguments. -/
  arguments : List String
  status : Nat
  /-- Whether a command that fails ends the script. -/
  strict : Bool
  stdout : List UInt8
  stderr : List UInt8
  input : List UInt8
  elapsed : Duration

namespace State

/-- A shell that is about to run a script. -/
def start (i : Invocation) (arguments : List String) (input : List UInt8) : State where
  env := i.env
  own := .empty
  files := i.files
  arguments := arguments
  status := 0
  strict := false
  stdout := []
  stderr := []
  input := input
  elapsed := .zero

/-- Sets the status. -/
def withStatus (s : State) (n : Nat) : State := { s with status := n }

/-- What stands before a complaint about something in a line. -/
def lead (s : State) (line : Nat) : String := s.arguments.headD "sh" ++ ": " ++ toString line ++ ": "

/-- Adds a complaint about something in a line. -/
def complain (s : State) (line : Nat) (message : String) (status : Nat) : State :=
  { s with stderr := s.stderr ++ Text.Utf8.encode (s.lead line ++ message ++ "\n"), status }

/-! ### Variables -/

/-- What is known of a variable. -/
def reading (s : State) (name : String) : Reading := (s.env.above s.own) name

/-- The value of a variable. -/
def value (s : State) (name : String) : String :=
  match name.toList with
  | ['?'] => toString s.status
  | ['$'] => ownNumber
  | ['#'] => toString (s.arguments.length - 1)
  | ['@'] | ['*'] => " ".intercalate s.arguments.tail
  | ['!'] => ""
  | '#' :: measured => toString ((s.reading (String.ofList measured)).text?.getD "").length
  | _ =>
    match name.toNat? with
    | some n => s.arguments.getD n ""
    | none => (s.reading name).text?.getD ""

/-- Whether a variable has a value. -/
def has (s : State) (name : String) : Bool :=
  match name.toNat? with
  | some n => n < s.arguments.length
  | none =>
    if name = "@" ∨ name = "*" then 1 < s.arguments.length
    else if ["?", "$", "#"].contains name then true
    else s.reading name ≠ .absent

/-- Sets a variable where it is, or as a variable of the shell's own. -/
def set (s : State) (name value : String) : State :=
  if s.env name = .absent then { s with own := .above (.ofList [(name, value)]) s.own }
  else { s with env := .above (.ofList [(name, value)]) s.env }

/-- Gives a variable, with the value that it has, to programs from now on. -/
def give (s : State) (name : String) : State :=
  if s.reading name = .absent then s else { s with env := .above (.ofList [(name, s.value name)]) s.env }

/-- Takes a variable away. -/
def unset (s : State) (name : String) : State :=
  let without (e : Environment) : Environment := fun n => if n = name then .absent else e n
  { s with env := without s.env, own := without s.own }

end State

/-- Whether a script goes on. -/
inductive Outcome
  | goesOn (s : State)
  | ends (s : State) (ending : Ending)

namespace Outcome

/-- The state behind an outcome. -/
def state : Outcome → State
  | goesOn s => s
  | ends s ending => s.withStatus ending.number

/-- What running a script amounts to. -/
def effect : Outcome → Effect
  | goesOn s => ⟨s.stdout, s.stderr, .exited (.ofNat s.status), s.elapsed, s.input⟩
  | ends s ending => ⟨s.stdout, s.stderr, ending, s.elapsed, s.input⟩

end Outcome

end Rollout.Host.Shell
