import Rollout.Session

/-!
# The images' tool

The commands of `docker` that a deployment needs.
-/

namespace Rollout.Tools.Docker

/-! ### Commands -/

def buildCommand (image dockerfile context : String) (platform : Option String) : Command :=
  ((Command.of "docker" ["build", "-t", image]).flag? "platform" platform).addArgs
    ["-f", dockerfile, context]

def pushCommand (image : String) : Command := .of "docker" ["push", image]

/-! ### Sessions -/

def build (image dockerfile context : String) (platform : Option String) :
    Attempt ProcessError Unit := do
  let _ ← Attempt.runChecked (buildCommand image dockerfile context platform)

def push (image : String) : Attempt ProcessError Unit := do
  let _ ← Attempt.runChecked (pushCommand image)

end Rollout.Tools.Docker
