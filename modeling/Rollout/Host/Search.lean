import Rollout.Host.Program

/-!
# Finding programs

A name with a slash is a path. Any other name is looked for in the directories of the search path,
one by one: what is there but cannot be run is passed over, and remembered.
-/

namespace Rollout.Host

/-- What a name leads to. -/
inductive Found
  | program (p : Program)
  /-- Something that cannot be run. -/
  | denied
  /-- A file where the path needs a directory. -/
  | notDirectory
  | nothing
  deriving DecidableEq, Repr

namespace Found

/-- What is at an absolute path: the programs are in two directories. -/
def atAbsolute (names : List String) : Found :=
  let programAt (name : String) : Found :=
    match Program.ofName? name with
    | some p => program p
    | none => nothing
  match names with
  | ["bin", name] | ["usr", "bin", name] => programAt name
  | [] | ["bin"] | ["usr"] | ["usr", "bin"] => denied
  | _ => nothing

/-- Whether a path goes on behind a file. -/
def passesFile (files : Files) (path : String) : Bool :=
  let names := Files.names path
  (List.range (names.length - 1)).any fun n =>
    match files.resolve? ("/".intercalate (names.take (n + 1))) with
    | some (.file _) => true
    | _ => false

/-- What is at a path. None of the files can be run. -/
def atPath (files : Files) (path : String) : Found :=
  if path.startsWith "/" then atAbsolute ((Files.names path).filter fun n => n ≠ "" ∧ n ≠ ".")
  else if files.exists? path then denied
  else if passesFile files path then notDirectory
  else nothing

/-- The directories of the search path where none is set. -/
def defaultPath : String := "/bin:/usr/bin"

/-- The search path of an environment. -/
def searchPath (env : Environment) : String := (env "PATH").text?.getD defaultPath

/-- The places where a name is looked for. -/
def candidates (path name : String) : List String :=
  (path.splitOn ":").map fun dir => (if dir.isEmpty then "." else dir) ++ "/" ++ name

/-- The first program among some things, or else the best reason why there is none. -/
def best (found : List Found) : Found :=
  match found.find? fun f => match f with | program _ => true | _ => false with
  | some f => f
  | none => if found.contains denied then denied else nothing

/-- What a name leads to in an environment. -/
def ofName (files : Files) (env : Environment) (name : String) : Found :=
  if name.isEmpty then nothing
  else if name.contains '/' then atPath files name
  else best ((candidates (searchPath env) name).map (atPath files))

end Found

end Rollout.Host
