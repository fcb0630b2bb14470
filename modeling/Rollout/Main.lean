import Rollout.CommandLine.Execution
import Rollout.CommandLine.Help
import Rollout.Host

/-!
# The program

Reads the command line, the environment and the files below the working directory, executes the
command line, shows its lines and writes the report. Commands are carried out by the host that these
files and this environment make up.
-/

namespace Rollout.Main

/-- The bytes up to each zero byte. -/
def pieces (bytes : List UInt8) : List (List UInt8) :=
  (bytes.splitBy fun a b => a ≠ 0 && b ≠ 0).filter fun piece => piece ≠ [0]

/-- A definition of the environment, as the system keeps it. -/
def definition? (bytes : List UInt8) : Option (String × Reading) :=
  let name := bytes.takeWhile (· ≠ 61)
  let value := (bytes.drop (name.length + 1))
  (Text.Utf8.decode? name).map fun name =>
    (name, match Text.Utf8.decode? value with | some s => .text s | none => .notUnicode)

/-- The environment of this process. -/
def environment : IO Environment := do
  try
    let bytes ← IO.FS.readBinFile "/proc/self/environ"
    return .ofReadings ((pieces bytes.toList).filterMap definition?)
  catch _ => return .empty

/-- The content of the file at a path. -/
def content? (path : String) : IO (Option Content) := do
  try return some (.bytes (← IO.FS.readBinFile path).toList)
  catch _ => return none

/-- The files at some paths, as far as they are there. -/
def load (files : List (String × Content)) : List String → IO (List (String × Content))
  | [] => return files
  | path :: rest => do
    match ← content? path with
    | some content => load (files ++ [(path, content)]) rest
    | none => load files rest

/-- The paths of the settings that can be read. -/
def settingsPaths (files : Files) (o : CommandLine.Options) : List String :=
  match Settings.load files o.settings with
  | .ok s => s.baseApp.extras ++ [s.baseApp.manifests, s.agents.template]
  | .error _ => []

/-- The directory of a path. -/
def parent (path : String) : String := "/".intercalate (Files.names path).dropLast

/-- The files that a command line is about. The directory of the report is taken to be there. -/
def surroundings (o : CommandLine.Options) : IO CommandLine.Surroundings := do
  let named := o.settings.toList ++ [o.envFile.getD Environment.defaultFile]
  let first ← load [] named
  let all ← load first (settingsPaths (.ofPaths [] first) o)
  return ⟨.ofPaths (o.report.toList.map parent) all, ← environment⟩

/-- Shows a line; errors go to the standard error. -/
def display (l : Line) : IO Unit :=
  match l.severity with
  | .error | .warn => IO.eprintln l.text
  | .info | .success => IO.println l.text

/-- Shows what there is to say about a command line that is refused. -/
def refuse (refusal : CommandLine.Refusal) : IO UInt32 := do
  IO.println CommandLine.commandsHelp
  return refusal.exitStatus.toUInt32

/-- Writes the report where one was wanted. -/
def writeReport (o : CommandLine.Options) (e : CommandLine.Execution) : IO Unit := do
  match o.report, e.report, o.dryRun with
  | some path, some r, false =>
    try IO.FS.writeFile path r.text
    catch _ => IO.eprintln (Line.warning (CommandLine.reportFailure path).text).text
  | _, _, _ => return ()

end Rollout.Main

/-- The program. -/
def main (args : List String) : IO UInt32 := do
  match Rollout.CommandLine.Options.parse args with
  | .error refusal => Rollout.Main.refuse refusal
  | .ok o =>
    let s ← Rollout.Main.surroundings o
    let host : Rollout.Host := ⟨s.files, s.environment⟩
    let (execution, events) := Rollout.CommandLine.run s o host.runner []
    (Rollout.linesOf events).forM Rollout.Main.display
    Rollout.Main.writeReport o execution
    match execution.result with
    | .ok () => return 0
    | .error f => return f.exitStatus.toUInt32
