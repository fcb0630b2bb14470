import Rollout.Session

/-!
# The cluster's tool

The commands of `kubectl` that a deployment needs. A document that was rendered is read from the
standard input, so that what it holds never shows among the arguments.
-/

namespace Rollout.Tools.Kubectl

/-! ### Commands -/

def applyPathCommand (path : String) : Command := .of "kubectl" ["apply", "-f", path]

def applyDocumentCommand (document : String) : Command :=
  (Command.of "kubectl" ["apply", "-f", "-"]).reading document

def createNamespaceCommand (space : String) : Command :=
  .of "kubectl" ["create", "namespace", space]

def getCommand (kind name space : String) (limit : Duration) : Command :=
  (Command.of "kubectl" ["get", kind, name, "-n", space, "-o", "json"]).within limit

/-! ### Sessions -/

/-- Applies what is at a path; the answer lists what was applied. -/
def applyPath (path : String) : Attempt ProcessError String := do
  let output ← Attempt.runChecked (applyPathCommand path)
  return output.stdout

/-- Applies a document. -/
def applyDocument (document : String) : Attempt ProcessError String := do
  let output ← Attempt.runChecked (applyDocumentCommand document)
  return output.stdout

def createNamespace (space : String) : Attempt ProcessError Output :=
  Attempt.run (createNamespaceCommand space)

/-- The description of a resource. -/
def getJson (kind name space : String) (limit : Duration) : Attempt ProcessError String := do
  let output ← Attempt.runChecked (getCommand kind name space limit)
  return output.stdout

end Rollout.Tools.Kubectl
