/-!
# Failure codes

Every failure carries a number. Its thousands name the kind of failure, the rest says what went
wrong; a description is registered for each number in use.
-/

namespace Rollout.FailureCode

/-! ### Configuration -/

def missingValue : UInt16 := 1001
def placeholderValue : UInt16 := 1002
def invalidValue : UInt16 := 1003
def environmentFile : UInt16 := 1004
def settingsFile : UInt16 := 1005

/-! ### Prerequisites -/

def toolMissing : UInt16 := 2001
def notAuthenticated : UInt16 := 2002

/-! ### Provisioning -/

def projectContext : UInt16 := 3001
def apiEnable : UInt16 := 3002
def repository : UInt16 := 3003
def clusterCreate : UInt16 := 3004
def clusterUnhealthy : UInt16 := 3005
def credentials : UInt16 := 3006

/-! ### Execution -/

def execution : UInt16 := 4000
def commandNotFound : UInt16 := 4001
def timeout : UInt16 := 4002
def commandFailed : UInt16 := 4003
def signalReceived : UInt16 := 4004
def spawnFailed : UInt16 := 4005
def outputError : UInt16 := 4006

/-! ### Images -/

def registryAuth : UInt16 := 5001
def imageBuild : UInt16 := 5002
def imagePush : UInt16 := 5003

/-! ### Templates -/

def unresolvedTemplate : UInt16 := 6001
def unreadableTemplate : UInt16 := 6002

/-! ### Manifests -/

def malformedManifest : UInt16 := 7001
def rejectedManifest : UInt16 := 7002
def namespaceFailed : UInt16 := 7003

/-! ### Readiness -/

def readinessTimeout : UInt16 := 8001
def probeFailed : UInt16 := 8002
def unreadableStatus : UInt16 := 8003

/-! ### Pipeline and usage -/

def dependencyNotMet : UInt16 := 9001
def missingConfiguration : UInt16 := 9002
def reportWrite : UInt16 := 9003
def unknownCommand : UInt16 := 9100

/-- The registered codes and what they stand for. -/
def registry : List (UInt16 × String) :=
  [(1000, "Generic configuration error"),
   (1001, "Required configuration value is missing"),
   (1002, "Configuration value is still a placeholder"),
   (1003, "Invalid configuration value"),
   (1004, "Environment file could not be read"),
   (1005, "Settings file could not be read or parsed"),
   (2000, "Generic prerequisite error"),
   (2001, "Required tool is not installed"),
   (2002, "No active cloud identity"),
   (3000, "Generic provisioning error"),
   (3001, "Failed to set active project"),
   (3002, "Failed to enable cloud APIs"),
   (3003, "Failed to create artifact repository"),
   (3004, "Failed to create cluster"),
   (3005, "Cluster exists but is not healthy"),
   (3006, "Failed to fetch cluster credentials"),
   (4000, "Generic execution error"),
   (4001, "Command not found"),
   (4002, "Command execution timeout"),
   (4003, "Subprocess failed"),
   (4004, "Command received signal"),
   (4005, "Failed to spawn subprocess"),
   (4006, "Command output error"),
   (5000, "Generic build error"),
   (5001, "Failed to configure registry credentials"),
   (5002, "Container image build failed"),
   (5003, "Container image push failed"),
   (6000, "Generic templating error"),
   (6001, "Unresolved template placeholder"),
   (6002, "Template file could not be read"),
   (7000, "Generic apply error"),
   (7001, "Manifest is not well-formed"),
   (7002, "Cluster rejected manifest"),
   (7003, "Failed to create namespace"),
   (8000, "Generic readiness error"),
   (8001, "Workload did not become ready in time"),
   (8002, "Readiness probe failed"),
   (8003, "Unreadable workload status"),
   (9000, "Generic pipeline error"),
   (9001, "Stage dependency has not completed"),
   (9002, "Configuration required but not validated"),
   (9003, "Failed to write run report"),
   (9100, "Unknown command")]

/-- What is said of a code that is not registered. -/
def unknown : String := "Unknown error code"

/-- What a code stands for. -/
def describe (code : UInt16) : String := (registry.lookup code).getD unknown

/-- Whether a description is registered for a code. -/
def isRegistered (code : UInt16) : Bool := (registry.lookup code).isSome

end Rollout.FailureCode
