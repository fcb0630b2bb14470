import Rollout.Pipeline
import Rollout.Tools.Docker
import Rollout.Tools.Gcloud

/-!
# Publishing images

The registry's credentials are configured, and then each image is built and pushed in its order. The
first failure leaves the images behind it alone.
-/

namespace Rollout.Stages.Images

/-- The failure of a command about an image or the registry. -/
def failure (code : UInt16) (message image : String) (e : ProcessError) : Failure :=
  ((Failure.build code message image).withContext e.message).withCauses e.chain

/-- Builds and pushes an image, the `number`th of `total`. -/
def publish (c : Configuration) (s : ImageSettings) (total number : Nat) (image : ImageSpec)
    (o : Outcome) : Attempt Failure Outcome := do
  let reference := c.imageRef image.name
  Attempt.display (.info ("Building " ++ image.name ++ " (" ++ toString number ++ "/" ++
    toString total ++ ")"))
  Attempt.mapFailure (failure FailureCode.imageBuild "docker build failed" reference)
    (Tools.Docker.build reference (s.dockerfileFor image) s.context s.platform)
  Attempt.display (.info ("Pushing " ++ reference))
  Attempt.mapFailure (failure FailureCode.imagePush "docker push failed" reference)
    (Tools.Docker.push reference)
  Attempt.display (.success ("Published " ++ reference))
  return o.note reference

/-- Builds and pushes the images that are left. -/
def publishAll (c : Configuration) (s : ImageSettings) (total : Nat) :
    (number : Nat) → List ImageSpec → Outcome → Attempt Failure Outcome
  | _, [], o => return o
  | number, image :: rest, o => do
    let o ← publish c s total number image o
    publishAll c s total (number + 1) rest o

/-- Builds and pushes all images. -/
def buildAndPush (c : Configuration) (s : ImageSettings) : Attempt Failure Outcome := do
  Attempt.display (.info ("Configuring Docker credentials for " ++ c.registryHost))
  Attempt.mapFailure
    (failure FailureCode.registryAuth "cannot configure registry credentials" c.registryHost)
    (Tools.Gcloud.configureDocker c.registryHost)
  publishAll c s s.workloads.length 1 s.workloads .silent

end Rollout.Stages.Images
