import Rollout.Manifest
import Rollout.Pipeline
import Rollout.Stages.Provisioning
import Rollout.Template
import Rollout.Tools.Kubectl

/-!
# Applying manifests

The base application is applied as it stands. The manifest of the agents is a template: it is
rendered and checked before anything touches the cluster, so that a bad template leaves nothing half
done.
-/

namespace Rollout.Stages.Manifests

/-- The failure of a manifest that the cluster did not take. -/
def rejection (manifest : String) (e : ProcessError) : Failure :=
  ((Failure.apply FailureCode.rejectedManifest "kubectl apply failed" manifest).withContext
    e.message).withCauses e.chain

/-- Applies what is at a path, which has to be there. -/
def applyPath (files : Files) (path : String) : Attempt Failure Unit :=
  if files.exists? path then do
    Attempt.display (.info ("Applying " ++ path))
    let _ ← Attempt.mapFailure (rejection path) (Tools.Kubectl.applyPath path)
  else
    Attempt.fail (.apply FailureCode.rejectedManifest "manifest path does not exist" path)

/-- Applies what is at some paths, one by one. -/
def applyAll (files : Files) : List String → Attempt Failure Unit
  | [] => return ()
  | path :: rest => do
    applyPath files path
    applyAll files rest

/-- Applies the base application: what has to be there first, and then its manifests. -/
def deployBase (files : Files) (s : BaseAppSettings) : Attempt Failure Outcome := do
  applyAll files (s.extras ++ [s.manifests])
  Attempt.display (.success "Base application manifests applied")
  return .silent

/-- The manifest of the agents: the template at the given path with the values of a configuration. -/
def renderAgents (files : Files) (c : Configuration) (path : String) :
    Except Failure (String × String) := do
  let template ← Template.ofFile files path
  let document ← template.render c.entries
  let _ ← Manifest.documents template.name document
  return (template.name, document)

/-- Sees to it that a namespace is there. -/
def ensureNamespace (space : String) (policy : Policy) (o : Outcome) :
    Attempt Failure Outcome := do
  let creation ← Attempt.mapFailure
    (fun e => ((Failure.apply FailureCode.namespaceFailed "cannot create namespace" space).withContext
      e.message).withCauses e.chain)
    (Provisioning.created policy ("kubectl create namespace " ++ space)
      (Tools.Kubectl.createNamespace space))
  match creation with
  | .created =>
    Attempt.display (.info ("Created namespace " ++ space))
    return o
  | .alreadyExisted => o.warn ("Namespace " ++ space ++ " already exists")

/-- Applies the agents. -/
def deployAgents (files : Files) (c : Configuration) (s : AgentSettings) (policy : Policy) :
    Attempt Failure Outcome := do
  let (name, document) ← Attempt.ofExcept (renderAgents files c s.template)
  let o ← ensureNamespace s.space policy .silent
  Attempt.display (.info ("Applying " ++ name))
  let _ ← Attempt.mapFailure (rejection name) (Tools.Kubectl.applyDocument document)
  Attempt.display (.success "Agent manifests applied")
  return o

end Rollout.Stages.Manifests
