import Rollout.Session

/-!
# Looking for tools

Whether a tool can be started. The program `which` is asked first; where there is none, the tool is
started to ask for its version, and having started is enough.
-/

namespace Rollout.Tools

/-- The command that looks for a tool. -/
def whichCommand (tool : String) : Command := .of "which" [tool]

/-- The command that starts a tool to see whether it is there. -/
def versionCommand (tool : String) : Command := .of tool ["--version"]

/-- Whether the answer to looking for a tool says that it is there. -/
def isFound (o : Output) : Bool := o.succeeded && !Text.isBlankText o.stdout

/-- Whether a tool can be started. -/
def which (tool : String) : Attempt ProcessError Bool := ExceptT.mk do
  match ← Session.run (whichCommand tool) with
  | .ok output => pure (.ok (isFound output))
  | .error (.commandNotFound _) =>
    match ← Session.run (versionCommand tool) with
    | .ok _ => pure (.ok true)
    | .error (.commandNotFound _) => pure (.ok false)
    | .error e => pure (.error e)
  | .error e => pure (.error e)

end Rollout.Tools
