import Rollout.Environment.File
import Rollout.Failure
import Rollout.Files

/-!
# Layered environments

The environment of the program lies over the definitions of an environment file. A file that the
operator names has to be there; the file that is used where none is named need not be.
-/

namespace Rollout.Environment

/-- The environment file where none is named. -/
def defaultFile : String := ".env"

/-- The failure of an environment file that is not there. -/
def missingFile (path : String) : Failure :=
  (Failure.configuration FailureCode.environmentFile
    ("Environment file " ++ path ++ " does not exist")).withRemediation "cp .env.example .env"

/-- The failure of an environment file that cannot be read or understood. -/
def unreadableFile (path : String) : Failure :=
  (Failure.configuration FailureCode.environmentFile
    ("Failed to read environment file " ++ path)).withCauses ["not readable, or not well-formed"]

/-- An environment over the definitions of the file at a path, if there is one. -/
def aboveFile (env : Environment) (files : Files) (path : String) (required : Bool) :
    Except Failure Environment :=
  if files.exists? path then
    match (files.read? path).bind (EnvironmentFile.parse? env) with
    | some entries => .ok (env.above (ofList entries))
    | none => .error (unreadableFile path)
  else if required then .error (missingFile path)
  else .ok env

/-- An environment over the file that is named, or over the default file. -/
def load (env : Environment) (files : Files) : Option String → Except Failure Environment
  | some path => env.aboveFile files path true
  | none => env.aboveFile files defaultFile false

end Rollout.Environment
