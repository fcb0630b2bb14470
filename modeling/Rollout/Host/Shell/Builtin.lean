import Rollout.Host.Shell.Expansion

/-!
# The shell's own commands

Commands that the shell carries out without starting a program. They may change what the shell holds,
and some end the script.
-/

namespace Rollout.Host.Shell

/-- What a command of the shell itself does: the state it leaves, its effect, and how it ends the
script, if it does. -/
structure Builtin where
  state : State
  effect : Effect
  ending : Option Ending

namespace Builtin

/-- A command that changes nothing that the shell holds. -/
def of (s : State) (e : Effect) : Builtin := ⟨s, e, none⟩

/-! ### Signals -/

/-- The number of a signal. -/
def signalNumber? (name : String) : Option Nat :=
  match name with
  | "HUP" => some 1
  | "INT" => some 2
  | "QUIT" => some 3
  | "ABRT" => some 6
  | "KILL" => some 9
  | "USR1" => some 10
  | "SEGV" => some 11
  | "USR2" => some 12
  | "PIPE" => some 13
  | "ALRM" => some 14
  | "TERM" => some 15
  | name => name.toNat?

/-- The signal and the targets that the arguments of `kill` name. -/
def signalOf? : List String → Option (Nat × List String)
  | "-s" :: name :: targets => (signalNumber? name).map (·, targets)
  | arg :: targets =>
    match arg.toList with
    | '-' :: name => (signalNumber? (String.ofList name)).map (·, targets)
    | _ => some (15, arg :: targets)
  | [] => none

/-- Whether a shell survives a signal. -/
def isHarmless (signal : Nat) : Bool := [0, 17, 18, 23, 28].contains signal

/-- Sends a signal, which only the shell itself receives. -/
def kill (s : State) (i : Invocation) : Builtin :=
  match signalOf? i.args with
  | some (signal, targets) =>
    if targets.contains ownNumber && !isHarmless signal then
      ⟨s, .quiet i 0, some (.killed signal)⟩
    else .of s (.quiet i 0)
  | none => .of s (.quiet i 2)

/-! ### Writing and reading -/

/-- The text that `echo` writes, where a first argument `-n` leaves the line open. -/
def echo (args : List String) : List UInt8 :=
  let (args, ending) : List String × List UInt8 := match args with
    | "-n" :: rest => (rest, [])
    | args => (args, [10])
  let line := " ".intercalate args
  let (bytes, goesOn) := Format.unescape line.length line.toList
  if goesOn then bytes ++ ending else bytes

/-- What the shell's own `printf` does. -/
def printf (s : State) (line : Nat) (i : Invocation) : Effect :=
  let lead := s.lead line ++ "printf: "
  match i.args with
  | [] => .complain i (lead ++ "usage: printf format [arg ...]") 2
  | format :: args =>
    let (bytes, refused) := Format.render format args
    let complaints := refused.map fun arg => lead ++ arg ++ ": expected numeric value\n"
    { Effect.print i bytes with
      stderr := Text.Utf8.encode (String.join complaints)
      ending := .exited (if refused.isEmpty then 0 else 1) }

/-- What some names get of a line: a field each, and the last one all that is left. -/
def shares : List String → List Char → List (String × String)
  | [], _ => []
  | [name], cs =>
    [(name, String.ofList ((cs.dropWhile separates).reverse.dropWhile separates).reverse)]
  | name :: rest, cs =>
    let cs := cs.dropWhile separates
    (name, String.ofList (cs.takeWhile fun c => !separates c)) ::
      shares rest (cs.dropWhile fun c => !separates c)

/-- Sets variables to what a line of the input holds. -/
def read (s : State) (line : Nat) (i : Invocation) : Builtin :=
  let names := i.args.filter (· ≠ "-r")
  if names.isEmpty then .of s (.complain i (s.lead line ++ "read: arg count") 2)
  else
    let text := i.input.takeWhile (· ≠ 10)
    let behind := i.input.drop text.length
    let s := (shares names (Text.Utf8.decodeLossy text).toList).foldl
      (fun s (name, value) => s.set name value) s
    .of s { Effect.quiet i (if behind.isEmpty then 1 else 0) with rest := behind.drop 1 }

/-! ### Conditions -/

/-- Whether a condition on one operand holds. -/
def unary? (files : Files) (op arg : String) : Option Bool :=
  match op with
  | "-n" => some !arg.isEmpty
  | "-z" => some arg.isEmpty
  | "-e" | "-r" | "-w" => some (files.exists? arg)
  | "-f" => some (files.readBytes? arg).isSome
  | "-s" => some ((files.readBytes? arg).any fun bytes => !bytes.isEmpty)
  | "-d" => some (files.exists? arg && (files.readBytes? arg).isNone)
  | "!" => some arg.isEmpty
  | _ => none

/-- The condition on two numbers with a name. -/
def comparison? (op : String) : Option (Int → Int → Bool) :=
  match op with
  | "-eq" => some fun a b => a = b
  | "-ne" => some fun a b => a ≠ b
  | "-lt" => some fun a b => a < b
  | "-le" => some fun a b => a ≤ b
  | "-gt" => some fun a b => b < a
  | "-ge" => some fun a b => b ≤ a
  | _ => none

/-- Whether a condition on two operands holds, or what is wrong with it. -/
def binary (a op b : String) : Except String Bool :=
  match op, comparison? op with
  | "=", _ => .ok (a = b)
  | "!=", _ => .ok (a ≠ b)
  | _, some compare =>
    match a.toInt?, b.toInt? with
    | some a, some b => .ok (compare a b)
    | none, _ => .error ("Illegal number: " ++ a)
    | _, none => .error ("Illegal number: " ++ b)
  | _, none => .error (op ++ ": unexpected operator")

/-- Whether a condition holds, or what is wrong with it. -/
def condition (files : Files) : List String → Except String Bool
  | [] => .ok false
  | [a] => .ok !a.isEmpty
  | [op, a] =>
    match unary? files op a with
    | some b => .ok b
    | none => .error (op ++ ": unexpected operator")
  | ["!", op, a] =>
    if op = "=" ∨ op = "!=" then binary "!" op a else (condition files [op, a]).map (!·)
  | [a, op, b] => binary a op b
  | "!" :: rest => (condition files rest).map (!·)
  | _ :: extra :: _ => .error (extra ++ ": unexpected operator")

/-- Checks a condition. -/
def test (s : State) (line : Nat) (name : String) (i : Invocation) (args : List String) : Effect :=
  match condition i.files args with
  | .ok holds => .quiet i (if holds then 0 else 1)
  | .error message => .complain i (s.lead line ++ name ++ ": " ++ message) 2

/-- Checks a condition that stands in brackets. -/
def bracket (s : State) (line : Nat) (i : Invocation) : Effect :=
  if i.args.getLast? = some "]" then test s line "[" i i.args.dropLast
  else .complain i (s.lead line ++ "[: missing ]") 2

/-! ### The script and its variables -/

/-- Ends the script with a number that is given, or else with the status. -/
def exit (s : State) (line : Nat) (i : Invocation) : Builtin :=
  let leave (n : Nat) : Builtin := ⟨s, .quiet i (.ofNat n), some (.exited (.ofNat n))⟩
  match i.args with
  | [] => leave s.status
  | arg :: _ =>
    match arg.toNat? with
    | some n => leave n
    | none =>
      let refused := Effect.complain i (s.lead line ++ "exit: Illegal number: " ++ arg) 2
      ⟨s, refused, some (.exited 2)⟩

/-- Gives variables to programs, those with a new value set to it before. -/
def exportAll (s : State) (args : List String) : State :=
  args.foldl (fun s arg =>
    let name := String.ofList (arg.toList.takeWhile (· ≠ '='))
    match arg.toList.dropWhile (· ≠ '=') with
    | [] => s.give name
    | _ :: value => (s.set name (String.ofList value)).give name) s

/-- Sets how the script is run, or its arguments. -/
def setOptions (s : State) : List String → State
  | [] => s
  | "--" :: args => { s with arguments := s.arguments.headD "sh" :: args }
  | arg :: args =>
    if arg.startsWith "-" then setOptions { s with strict := s.strict || arg.contains 'e' } args
    else if arg.startsWith "+" then
      setOptions { s with strict := s.strict && !arg.contains 'e' } args
    else { s with arguments := s.arguments.headD "sh" :: arg :: args }

/-- The command of the shell itself with a name, if there is one. -/
def ofName? (s : State) (line : Nat) (name : String) (i : Invocation) : Option Builtin :=
  match name with
  | ":" | "true" => some (.of s (.quiet i 0))
  | "false" => some (.of s (.quiet i 1))
  | "echo" => some (.of s (.print i (echo i.args)))
  | "printf" => some (.of s (printf s line i))
  | "read" => some (read s line i)
  | "test" => some (.of s (test s line "test" i i.args))
  | "[" => some (.of s (bracket s line i))
  | "exit" => some (exit s line i)
  | "kill" => some (kill s i)
  | "export" => some (.of (exportAll s i.args) (.quiet i 0))
  | "unset" => some (.of (i.args.foldl State.unset s) (.quiet i 0))
  | "set" => some (.of (setOptions s i.args) (.quiet i 0))
  | "shift" => some (.of { s with arguments := s.arguments.take 1 ++ s.arguments.drop 2 } (.quiet i 0))
  | _ => none

end Builtin

end Rollout.Host.Shell
