import Rollout.Bits
import Rollout.Configuration
import Rollout.Environment
import Rollout.Failure
import Rollout.Text.Blank
import Rollout.Text.Digits

/-!
# Validating an environment

A variable counts as set when it has a text that is not blank; its value is that text without the
blanks at its ends. Settings are checked in the order in which they are declared, and the first that
fails is reported: the required ones, which may not keep the value of the sample file, and then those
that have to be whole numbers above zero.
-/

namespace Rollout.Configuration

/-! ### Reading variables -/

/-- The trimmed text of a variable that is set. -/
def setting? (env : Environment) (name : String) : Option String :=
  ((env name).text?.map Text.trim).filter fun value => !value.isEmpty

/-- Whether a value is one of the samples, in any case of its letters. -/
def isSample (samples : List String) (value : String) : Bool :=
  samples.any fun sample => Text.sameIgnoringCase sample value

/-- A setting that has to be there and to differ from the samples. -/
def required (env : Environment) (name : String) (samples : List String) :
    Except Failure String :=
  match setting? env name with
  | none => .error (.missing name)
  | some value => if isSample samples value then .error (.placeholder name) else .ok value

/-- A setting, or its default. -/
def optional (env : Environment) (name default : String) : String :=
  (setting? env name).getD default

/-- The whole number of at most 64 bits that a text spells; a plus sign may stand before it. -/
def wholeNumber? (value : String) : Option Nat :=
  let digits := match value.toList with
    | '+' :: rest => rest
    | cs => cs
  (Text.digitsValue? 10 digits).filter fun n => Bits.holds 64 n

/-- Whether a text spells a whole number above zero. -/
def isPositive (value : String) : Bool := (wholeNumber? value).any (0 < ·)

/-- A setting, or its default, that has to be a whole number above zero. -/
def positive (env : Environment) (name default : String) : Except Failure String :=
  let value := optional env name default
  if isPositive value then .ok value
  else
    .error ((Failure.invalid name ("expected a positive integer, got '" ++ value ++ "'"))
      |>.withRemediation ("Set " ++ name ++ " to a whole number greater than zero"))

/-- The region, which may be set under either of two names. -/
def regionOf (env : Environment) : String :=
  ((setting? env locationName).or (setting? env regionName)).getD "us-central1"

/-- The value of a setting. -/
def Key.read (env : Environment) (key : Key) : Except Failure String :=
  match key.default? with
  | none => Configuration.required env key.name key.samples
  | some default =>
    if key.numeric then positive env key.name default
    else return Configuration.optional env key.name default

/-- The values of some settings by name, in their order. -/
def readKeys (env : Environment) : List Key → Except Failure (List (String × String))
  | [] => return []
  | key :: keys => do
    let value ← key.read env
    let values ← readKeys env keys
    return (key.name, value) :: values

/-- The configuration of a region and of the values of all other settings. -/
def ofValues (region : String) (values : List (String × String)) : Configuration :=
  let value (name : String) : String := (values.lookup name).getD ""
  { region
    projectId := value projectIdName
    apiKey := value apiKeyName
    clusterName := value clusterNameName
    monitoringInterval := value monitoringIntervalName
    auditLogPath := value auditLogPathName
    reportInterval := value reportIntervalName
    logLevel := value logLevelName
    repository := value repositoryName
    imageTag := value imageTagName }

/-- The configuration that an environment describes. -/
def validate (env : Environment) : Except Failure Configuration := do
  let values ← readKeys env (requiredKeys ++ optionalKeys)
  return ofValues (regionOf env) values

end Rollout.Configuration
