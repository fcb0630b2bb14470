import Rollout.Text.Quoted
import Rollout.Text.Search

/-!
# Configuration

What a deployment has to know: where it goes, under which names, and the key that it must not show.
A configuration is made by `Configuration.validate` only; each of its entries is a trimmed text that
is not empty. Which settings there are, what each of them defaults to and which of them is secret is
declared in two tables (`Configuration.requiredKeys` and `Configuration.optionalKeys`).

Every text on its way to the operator passes `Configuration.mask`, which replaces each occurrence of
the secret.
-/

namespace Rollout

/-- A validated configuration. -/
structure Configuration where
  projectId : String
  apiKey : String
  region : String
  clusterName : String
  monitoringInterval : String
  auditLogPath : String
  reportInterval : String
  logLevel : String
  repository : String
  imageTag : String
  deriving DecidableEq

namespace Configuration

/-! ### Names of settings -/

def projectIdName : String := "PROJECT_ID"
def apiKeyName : String := "GOOGLE_API_KEY"
def locationName : String := "GCP_LOCATION"
def regionName : String := "REGION"
def clusterNameName : String := "CLUSTER_NAME"
def monitoringIntervalName : String := "MONITORING_INTERVAL"
def auditLogPathName : String := "AUDIT_LOG_PATH"
def reportIntervalName : String := "REPORT_INTERVAL_MINUTES"
def logLevelName : String := "LOG_LEVEL"
def repositoryName : String := "ARTIFACT_REPOSITORY"
def imageTagName : String := "IMAGE_TAG"
def registryName : String := "IMAGE_REGISTRY"

/-! ### Keys -/

/-- What is declared of a setting. -/
structure Key where
  name : String
  /-- The value where the setting is not made; a setting without one is required. -/
  default? : Option String
  /-- Values of the sample file that must not reach a deployment. -/
  samples : List String
  /-- Whether the value must not be shown. -/
  secret : Bool
  /-- Whether the value has to be a whole number above zero. -/
  numeric : Bool

namespace Key

/-- A setting that has to be made. -/
def required (name : String) (samples : List String) : Key := ⟨name, none, samples, false, false⟩

/-- A setting with a default. -/
def optional (name default : String) : Key := ⟨name, some default, [], false, false⟩

end Key

def projectIdSamples : List String := ["your-gcp-project-id", "your-project-id"]

def apiKeySamples : List String := ["your-google-ai-api-key", "your-api-key"]

/-- The settings that have to be made, in the order in which they are checked. -/
def requiredKeys : List Key :=
  [.required projectIdName projectIdSamples,
   { Key.required apiKeyName apiKeySamples with secret := true }]

/-- The settings that need not be made. The region is none of them, since it has two names. -/
def optionalKeys : List Key :=
  [.optional clusterNameName "boa-consent-cluster",
   { Key.optional monitoringIntervalName "30" with numeric := true },
   .optional auditLogPathName "/tmp/audit_log.json",
   { Key.optional reportIntervalName "60" with numeric := true },
   .optional logLevelName "INFO",
   .optional repositoryName "consent-agents",
   .optional imageTagName "latest"]

/-! ### Derived values -/

/-- The host of the image registry. -/
def registryHost (c : Configuration) : String := c.region ++ "-docker.pkg.dev"

/-- The registry of the project's images. -/
def registry (c : Configuration) : String :=
  c.registryHost ++ "/" ++ c.projectId ++ "/" ++ c.repository

/-- The full name of an image with its tag. -/
def imageRef (c : Configuration) (image : String) : String :=
  c.registry ++ "/" ++ image ++ ":" ++ c.imageTag

/-! ### Entries -/

/-- All entries by name, derived ones included, in the order of the names. -/
def entries (c : Configuration) : List (String × String) :=
  [(repositoryName, c.repository),
   (auditLogPathName, c.auditLogPath),
   (clusterNameName, c.clusterName),
   (locationName, c.region),
   (apiKeyName, c.apiKey),
   (registryName, c.registry),
   (imageTagName, c.imageTag),
   (logLevelName, c.logLevel),
   (monitoringIntervalName, c.monitoringInterval),
   (projectIdName, c.projectId),
   (regionName, c.region),
   (reportIntervalName, c.reportInterval)]

/-- The entry of a name. -/
def get? (c : Configuration) (name : String) : Option String := c.entries.lookup name

/-- Whether the entry of a name must not be shown. -/
def isSecret (name : String) : Bool := requiredKeys.any fun key => key.secret && key.name = name

/-! ### Masking -/

/-- What stands in place of the secret. -/
def maskText : String := "***MASKED***"

/-- The text with each occurrence of the secret replaced. -/
def mask (c : Configuration) (text : String) : String := Text.replace text c.apiKey maskText

/-- The entries as they may be shown. -/
def shownEntries (c : Configuration) : List (String × String) :=
  c.entries.map fun (name, value) => (name, if isSecret name then maskText else value)

/-- The shown entries on one line. -/
def describe (c : Configuration) : String := Text.quotedEntries c.shownEntries

theorem map_fst_shownEntries (c : Configuration) :
    c.shownEntries.map Prod.fst = c.entries.map Prod.fst := rfl

end Configuration

end Rollout
