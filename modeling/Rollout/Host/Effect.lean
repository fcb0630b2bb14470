import Rollout.Duration
import Rollout.Environment
import Rollout.Files

/-!
# What a program does

A program is started with arguments, an environment, the files and its input. It writes to its two
outputs, leaves some of its input unread, takes time, and ends by itself or by a signal.
-/

namespace Rollout.Host

/-- What a program is started with. -/
structure Invocation where
  args : List String
  env : Environment
  files : Files
  input : List UInt8

/-- How a program ends. -/
inductive Ending
  | exited (n : UInt8)
  | killed (signal : Nat)
  deriving DecidableEq, Repr

/-- The number that a shell has for an ending. -/
def Ending.number : Ending → Nat
  | exited n => n.toNat
  | killed signal => 128 + signal

/-- What a program does. -/
structure Effect where
  stdout : List UInt8
  stderr : List UInt8
  ending : Ending
  elapsed : Duration
  /-- The input that it leaves. -/
  rest : List UInt8
  deriving Repr

namespace Effect

/-- Exits at once and leaves the input alone. -/
def quiet (i : Invocation) (n : UInt8) : Effect := ⟨[], [], .exited n, .zero, i.input⟩

/-- Writes a text to the standard output and exits. -/
def print (i : Invocation) (bytes : List UInt8) : Effect := { quiet i 0 with stdout := bytes }

/-- Complains and exits. -/
def complain (i : Invocation) (message : String) (n : UInt8) : Effect :=
  { quiet i n with stderr := Text.Utf8.encode (message ++ "\n") }

end Effect

end Rollout.Host
