import Rollout.Host.Shell.Builtin

/-!
# Running shell scripts

The steps of a script are run one behind the other. Each command is looked for among those of the
shell itself first and then among the programs of the host. What the commands write is collected, and
the script ends with the status of its last command unless something ended it before.
-/

namespace Rollout.Host.Shell

/-! ### Redirections -/

/-- Where an output goes. -/
inductive Sink
  | stdout | stderr | nowhere
  | file (path : String)
  deriving DecidableEq, Repr

/-- Where the outputs go and the input comes from. -/
structure Wiring where
  stdout : Sink
  stderr : Sink
  input : List UInt8

namespace Wiring

/-- Connects an output. -/
def connect (w : Wiring) (fd : Nat) (sink : Sink) : Wiring :=
  match fd with
  | 1 => { w with stdout := sink }
  | 2 => { w with stderr := sink }
  | _ => w

/-- The outputs that have paths, and the one that swallows everything. -/
def device? (w : Wiring) (path : String) : Option Sink :=
  match path with
  | "/dev/null" => some .nowhere
  | "/dev/stdout" => some w.stdout
  | "/dev/stderr" => some w.stderr
  | _ => none

end Wiring

/-- Puts a redirection in place, where its target can be opened. -/
def redirect (s : State) (w : Wiring) (r : Redirection) : Except String (State × Wiring) :=
  let target := expandWhole s r.target
  match r.sign with
  | "<" =>
    match readable? s.files target with
    | some bytes => .ok (s, { w with input := bytes })
    | none => .error ("cannot open " ++ target ++ ": No such file")
  | "<&" => .ok (s, w)
  | ">&" =>
    match target with
    | "1" => .ok (s, w.connect r.fd w.stdout)
    | "2" => .ok (s, w.connect r.fd w.stderr)
    | _ => .ok (s, w.connect r.fd .nowhere)
  | sign =>
    match w.device? target, s.files.writeBytes? target (sign = ">") [] with
    | some sink, _ => .ok (s, w.connect r.fd sink)
    | none, some files => .ok ({ s with files }, w.connect r.fd (.file target))
    | none, none =>
      let reason := if s.files.exists? target then "Is a directory" else "Directory nonexistent"
      .error ("cannot create " ++ target ++ ": " ++ reason)

/-- Puts redirections in place, from left to right, up to a fault. -/
def redirectAll (s : State) (w : Wiring) : List Redirection → Except String (State × Wiring)
  | [] => .ok (s, w)
  | r :: rest =>
    match redirect s w r with
    | .ok (s, w) => redirectAll s w rest
    | .error fault => .error fault

/-- Collects what was written to an output. -/
def deliver (s : State) (bytes : List UInt8) : Sink → State
  | .stdout => { s with stdout := s.stdout ++ bytes }
  | .stderr => { s with stderr := s.stderr ++ bytes }
  | .nowhere => s
  | .file path => { s with files := (s.files.writeBytes? path false bytes).getD s.files }

/-- Takes over what a command did. -/
def absorb (s : State) (w : Wiring) (ownInput : Bool) (e : Effect) : State :=
  let s := deliver (deliver s e.stdout w.stdout) e.stderr w.stderr
  { s with
    status := e.ending.number
    elapsed := s.elapsed + e.elapsed
    input := if ownInput then e.rest else s.input }

/-! ### Steps -/

/-- What runs programs that are not the shell's own. -/
abbrev Runs : Type := Program → Invocation → Effect

/-- The variables of a command: those of programs, and the ones that are set for it alone. -/
def assign (s : State) (assignments : List (String × Word)) : Environment :=
  assignments.foldl
    (fun env (name, value) => Environment.above (.ofList [(name, expandWhole s value)]) env) s.env

/-- A command to be run: its line, its wiring, whether it reads the shell's own input, and the
variables that it is given. -/
structure Call where
  line : Nat
  wiring : Wiring
  ownInput : Bool
  env : Environment

/-- Complains, where the complaints of a command go. -/
def Call.refuse (c : Call) (s : State) (message : String) (status : Nat) : State :=
  (deliver s (Text.Utf8.encode (s.lead c.line ++ message ++ "\n")) c.wiring.stderr).withStatus status

/-- Runs a program with its arguments. -/
def runProgram (runs : Runs) (s : State) (c : Call) (lead name : String) (args : List String) :
    Outcome :=
  match Found.ofName s.files c.env name with
  | .program p =>
    let e := runs p ⟨args, c.env, s.files, c.wiring.input⟩
    .ends (absorb s c.wiring c.ownInput e) e.ending
  | .denied => .ends (c.refuse s (lead ++ name ++ ": Permission denied") 126) (.exited 126)
  | .notDirectory | .nothing => .ends (c.refuse s (lead ++ name ++ ": not found") 127) (.exited 127)

/-- Runs a command with its arguments. One that takes the shell's place ends the script. -/
def runNamed (runs : Runs) (s : State) (c : Call) (name : String) (args : List String) : Outcome :=
  match name, args with
  | "exec", [] => .goesOn (s.withStatus 0)
  | "exec", program :: args => runProgram runs s c "exec: " program args
  | _, _ =>
    match Builtin.ofName? s c.line name ⟨args, c.env, s.files, c.wiring.input⟩ with
    | some ⟨s, effect, none⟩ => .goesOn (absorb s c.wiring c.ownInput effect)
    | some ⟨s, effect, some ending⟩ => .ends (absorb s c.wiring c.ownInput effect) ending
    | none => .goesOn (runProgram runs s c "" name args).state

/-- Runs a command with its redirections. -/
def runSimple (runs : Runs) (s : State) (c : Simple) : Outcome :=
  let assigned := ((c.words.map assignment?).takeWhile Option.isSome).filterMap id
  let ownInput := c.redirections.all fun r => r.sign ≠ "<"
  match redirectAll s ⟨.stdout, .stderr, s.input⟩ c.redirections with
  | .error fault => .goesOn (s.complain c.line fault 2)
  | .ok (s, w) =>
    match (c.words.drop assigned.length).flatMap (expand s) with
    | [] =>
      .goesOn ((assigned.foldl (fun s (name, value) => s.set name (expandWhole s value)) s).withStatus
        0)
    | name :: args => runNamed runs s ⟨c.line, w, ownInput, assign s assigned⟩ name args

/-- Runs the commands of a pipeline, each of which reads what the one before it wrote. -/
def runPiped (runs : Runs) (s : State) : List Simple → State
  | [] => s
  | [c] => (runSimple runs s c).state
  | c :: rest =>
    let left := (runSimple runs { s with stdout := [] } c).state
    runPiped runs
      { s with
        stderr := left.stderr, files := left.files, elapsed := left.elapsed, input := left.stdout }
      rest

/-- Runs a pipeline; a command on its own may end the script. -/
def runStages (runs : Runs) (s : State) : List Simple → Outcome
  | [c] => runSimple runs s c
  | stages =>
    let behind := runPiped runs s stages
    .goesOn { s with
      status := behind.status, stdout := behind.stdout, stderr := behind.stderr
      files := behind.files, elapsed := behind.elapsed, input := [] }

/-- Whether a step is run. -/
def Join.holds (s : State) : Join → Bool
  | always => true
  | onSuccess => s.status == 0
  | onFailure => s.status != 0

/-- Whether a failed step ends a strict script: one whose status the next step does not ask for. -/
def isFatal (s : State) (rest : List Step) : Bool :=
  s.strict && s.status != 0 && rest.head?.all fun next => next.join = .always

/-- Runs steps. -/
def runSteps (runs : Runs) (s : State) : List Step → Outcome
  | [] => .goesOn s
  | step :: rest =>
    if step.join.holds s then
      match runStages runs s step.stages with
      | .goesOn s =>
        if isFatal s rest then .ends s (.exited (.ofNat s.status)) else runSteps runs s rest
      | ended => ended
    else runSteps runs s rest

/-- Runs a script. -/
def runText (runs : Runs) (s : State) (text : String) : Effect :=
  let (steps, fault) := Step.ofText text
  match runSteps runs s steps, fault with
  | .goesOn s, some fault => (Outcome.goesOn (s.complain fault.line fault.message 2)).effect
  | outcome, _ => outcome.effect

/-- Runs the script that the arguments give, or the one in the file that they name, or the input. -/
def run (runs : Runs) (i : Invocation) : Effect :=
  match i.args with
  | [] => runText runs (.start i ["sh"] []) (Text.Utf8.decodeLossy i.input)
  | ["-c"] => .complain i "sh: 0: -c requires an argument" 2
  | "-c" :: text :: rest => runText runs (.start i (if rest.isEmpty then ["sh"] else rest) i.input) text
  | file :: rest =>
    match i.files.readBytes? file with
    | some bytes => runText runs (.start i (file :: rest) i.input) (Text.Utf8.decodeLossy bytes)
    | none => .complain i ("sh: 0: cannot open " ++ file ++ ": No such file") 2

end Rollout.Host.Shell
