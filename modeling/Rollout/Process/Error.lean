import Rollout.Duration.Short
import Rollout.Failure

/-!
# Commands that go wrong

Why a command has no output to speak of, and what failure that amounts to.
-/

namespace Rollout

/-- Why a command was not carried out. -/
inductive ProcessError
  | commandNotFound (program : String)
  | timeout (after : Duration)
  | failed (line : String) (exit : Int32) (stderr : String)
  | signal (number : Int32)
  | spawnFailed (line cause : String)
  | io (cause : String)
  /-- A call that a script of expected calls does not have. -/
  | unexpected (text : String)
  deriving DecidableEq, Repr

namespace ProcessError

/-- The wording of an error. -/
def message : ProcessError → String
  | commandNotFound program => "Command not found: " ++ program
  | timeout after => "Process timed out after " ++ after.short
  | failed line exit stderr =>
    "`" ++ line ++ "` exited with code " ++ toString exit.toInt ++ ": " ++ stderr
  | signal number => "Process terminated by signal " ++ toString number.toInt
  | spawnFailed line cause => "Failed to spawn `" ++ line ++ "`: " ++ cause
  | io cause => "IO error: " ++ cause
  | unexpected text => "Mock expectation not met: " ++ text

/-- What a failed command wrote to its standard error. -/
def stderr : ProcessError → String
  | failed _ _ stderr => stderr
  | _ => ""

/-- The cause behind the error. -/
def cause? : ProcessError → Option String
  | spawnFailed _ cause | io cause => some cause
  | _ => none

/-- The code of the failure that an error amounts to. -/
def code : ProcessError → UInt16
  | commandNotFound _ => FailureCode.commandNotFound
  | timeout _ => FailureCode.timeout
  | failed .. => FailureCode.commandFailed
  | signal _ => FailureCode.signalReceived
  | spawnFailed .. => FailureCode.spawnFailed
  | io _ => FailureCode.outputError
  | unexpected _ => FailureCode.execution

/-- The command that an error names. -/
def command? : ProcessError → Option String
  | commandNotFound program => some program
  | failed line .. | spawnFailed line _ => some line
  | _ => none

/-- The exit status or signal that an error brings. -/
def exit? : ProcessError → Option Int32
  | failed _ exit _ => some exit
  | signal number => some number
  | _ => none

/-- The error itself and the cause behind it. -/
def chain (e : ProcessError) : List String := e.message :: e.cause?.toList

/-- The failure that an error amounts to. -/
def toFailure (e : ProcessError) : Failure :=
  ⟨e.code, e.message, .execution e.command? e.exit? e.chain⟩

end ProcessError

end Rollout
