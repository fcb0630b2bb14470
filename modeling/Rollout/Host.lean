import Rollout.Host.Shell.Run
import Rollout.Script

/-!
# Hosts

A host has files, an environment and a few small programs, and carries commands out: it finds the
program, gives it its arguments, variables and input, and reports how it ended and what it wrote. A
program that takes longer than its command allows is not waited for.

What a program writes is read as text, with U+FFFD in place of what is none.
-/

namespace Rollout

/-- Where commands are carried out. -/
structure Host where
  files : Files
  environment : Environment

namespace Host

/-- How deep shells may be started from within shells. -/
def maxDepth : Nat := 64

/-- What a program does; at the greatest depth a shell does nothing any more. -/
def runProgram : (depth : Nat) → Program → Invocation → Effect
  | 0, p, i => p.run (fun i => .quiet i 2) i
  | depth + 1, p, i => p.run (Shell.run (runProgram depth)) i

/-- The least time that a program takes. -/
def startup : Duration := .ofMillis 1

/-- How many bytes of input a program that reads none can be given. -/
def pipeCapacity : Nat := 65536

/-- Whether a text holds the character that no argument can hold. -/
def hasNul (s : String) : Bool := s.contains '\x00'

/-- Whether a command cannot even be written down for the system. -/
def isUnspeakable (c : Command) : Bool :=
  hasNul c.program || c.args.any hasNul || c.env.any fun (name, value) => hasNul name || hasNul value

/-- The exit status of an ending. -/
def Ending.status : Ending → ExitStatus
  | exited n => .ofExit (.ofNat n.toNat)
  | killed signal => .signal (.ofNat signal)

/-- What a command answers whose program has been carried out. -/
def answer (c : Command) (input : List UInt8) (e : Effect) : Answer :=
  let took := startup + e.elapsed
  if e.rest.length = input.length ∧ pipeCapacity < input.length then
    .error (.io "Broken pipe (os error 32)")
  else
    match c.timeout with
    | some limit =>
      if limit.nanos < took.nanos then .error (.timeout limit)
      else .ok ⟨e.ending.status, Text.Utf8.decodeLossy e.stdout, Text.Utf8.decodeLossy e.stderr, took⟩
    | none =>
      .ok ⟨e.ending.status, Text.Utf8.decodeLossy e.stdout, Text.Utf8.decodeLossy e.stderr, took⟩

/-- Carries a command out. -/
def carryOut (h : Host) (c : Command) : Answer :=
  let refuse (cause : String) : Answer := .error (.spawnFailed c.line cause)
  let env := Environment.above (.ofList c.env) h.environment
  let input := Text.Utf8.encode (c.stdin.getD "")
  if isUnspeakable c then refuse "nul byte found in provided data"
  else
    match Found.ofName h.files env c.program with
    | .nothing => .error (.commandNotFound c.program)
    | .denied => refuse "Permission denied (os error 13)"
    | .notDirectory => refuse "Not a directory (os error 20)"
    | .program p => answer c input (runProgram maxDepth p ⟨c.args, env, h.files, input⟩)

/-- The runner that a host is. -/
def runner (h : Host) : Runner := fun _ c => h.carryOut c

end Host

end Rollout
