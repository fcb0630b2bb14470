import Rollout.Failure.Code
import Rollout.Duration.Short

/-!
# Failures

What stops a run. A failure has a code, a message and a *matter*: the kind of failure together with
its subject, a remediation where the kind has one, and the chain of its causes where the kind keeps
one.

The matter alone decides the exit status of the program (`Failure.exitStatus`); masking a failure
rewrites its free text and keeps matter, code and subject (`Failure.masked`).
-/

namespace Rollout

/-- What a failure is about. Causes are listed from the nearest to the root. -/
inductive Matter
  | configuration (key remediation : Option String) (causes : List String)
  | prerequisite (remediation : Option String)
  | provisioning (resource remediation : Option String) (causes : List String)
  | execution (command : Option String) (exit : Option Int32) (causes : List String)
  | build (image : Option String) (causes : List String)
  | template (tokens : List String) (causes : List String)
  | apply (manifest : Option String) (causes : List String)
  | readiness (workload remediation : Option String)
  | pipeline (stage : Option String) (causes : List String)
  | usage
  deriving DecidableEq, Repr

/-- A failure. -/
structure Failure where
  code : UInt16
  message : String
  matter : Matter
  deriving DecidableEq, Repr

namespace Matter

/-- The word for the kind of failure, as its text begins. -/
def title : Matter → String
  | configuration .. => "Configuration"
  | prerequisite .. => "Prerequisite"
  | provisioning .. => "Provisioning"
  | execution .. => "Execution"
  | build .. => "Build"
  | template .. => "Templating"
  | apply .. => "Apply"
  | readiness .. => "Readiness"
  | pipeline .. => "Pipeline"
  | usage => "Usage"

/-- The exit status of a program that fails with this. -/
def exitStatus : Matter → Int32
  | configuration .. => 2
  | prerequisite .. => 3
  | provisioning .. => 4
  | execution .. => 5
  | build .. => 6
  | template .. => 7
  | apply .. => 8
  | readiness .. => 9
  | pipeline .. => 10
  | usage => 64

/-- The causes, from the nearest to the root. -/
def causes : Matter → List String
  | configuration _ _ causes | provisioning _ _ causes | execution _ _ causes | build _ causes
  | template _ causes | apply _ causes | pipeline _ causes => causes
  | prerequisite _ | readiness .. | usage => []

/-- What the operator can do about it. -/
def remediation? : Matter → Option String
  | configuration _ remediation _ | prerequisite remediation | provisioning _ remediation _
  | readiness _ remediation => remediation
  | _ => none

/-- The configuration key that the failure is about. -/
def key? : Matter → Option String
  | configuration key .. => key
  | _ => none

/-- Replaces the causes, where the kind of failure keeps any. -/
def withCauses (causes : List String) : Matter → Matter
  | configuration key remediation _ => configuration key remediation causes
  | provisioning resource remediation _ => provisioning resource remediation causes
  | execution command exit _ => execution command exit causes
  | build image _ => build image causes
  | template tokens _ => template tokens causes
  | apply manifest _ => apply manifest causes
  | pipeline stage _ => pipeline stage causes
  | m => m

/-- Replaces the remediation, where the kind of failure has one. -/
def withRemediation (text : String) : Matter → Matter
  | configuration key _ causes => configuration key (some text) causes
  | prerequisite _ => prerequisite (some text)
  | provisioning resource _ causes => provisioning resource (some text) causes
  | readiness workload _ => readiness workload (some text)
  | m => m

/-- Sets the exit status of the command that failed. -/
def withExit (n : Int32) : Matter → Matter
  | execution command _ causes => execution command (some n) causes
  | m => m

/-- A chain of causes as one masked cause. -/
def maskCauses (mask : String → String) : List String → List String
  | [] => []
  | causes => [mask (": ".intercalate causes)]

/-- Masks remediation, command and causes; the other subjects stay. -/
def masked (mask : String → String) : Matter → Matter
  | configuration key remediation causes =>
    configuration key (remediation.map mask) (maskCauses mask causes)
  | prerequisite remediation => prerequisite (remediation.map mask)
  | provisioning resource remediation causes =>
    provisioning resource (remediation.map mask) (maskCauses mask causes)
  | execution command exit causes => execution (command.map mask) exit (maskCauses mask causes)
  | build image causes => build image (maskCauses mask causes)
  | template tokens causes => template tokens (maskCauses mask causes)
  | apply manifest causes => apply manifest (maskCauses mask causes)
  | readiness workload remediation => readiness workload (remediation.map mask)
  | pipeline stage causes => pipeline stage (maskCauses mask causes)
  | usage => usage

theorem exitStatus_masked (mask : String → String) (m : Matter) :
    (m.masked mask).exitStatus = m.exitStatus := by
  cases m <;> rfl

/-- Masking leaves at most one cause. -/
theorem length_causes_masked (mask : String → String) (m : Matter) :
    (m.masked mask).causes.length ≤ 1 := by
  have h : ∀ causes : List String, (maskCauses mask causes).length ≤ 1 := by
    intro causes
    cases causes <;> simp [maskCauses]
  cases m <;> simp [masked, causes, h]

end Matter

namespace Failure

/-! ### Making failures -/

/-- A failure of the configuration as a whole. -/
def configuration (code : UInt16) (message : String) : Failure :=
  ⟨code, message, .configuration none none []⟩

/-- A setting that has to be there is absent or blank. -/
def missing (key : String) : Failure :=
  ⟨FailureCode.missingValue, key ++ " is not set",
    .configuration (some key)
      (some ("Set " ++ key ++ " in your .env file or run: export " ++ key ++ "=<value>")) []⟩

/-- A setting still has the value of the sample file, which is not repeated. -/
def placeholder (key : String) : Failure :=
  ⟨FailureCode.placeholderValue, key ++ " still has its placeholder value",
    .configuration (some key)
      (some ("Replace the sample value of " ++ key ++ " in your .env file with a real one")) []⟩

/-- A setting has a value that it cannot have. -/
def invalid (key message : String) : Failure :=
  ⟨FailureCode.invalidValue, key ++ ": " ++ message, .configuration (some key) none []⟩

def prerequisite (code : UInt16) (message remediation : String) : Failure :=
  ⟨code, message, .prerequisite (some remediation)⟩

def provisioning (code : UInt16) (message resource : String) : Failure :=
  ⟨code, message, .provisioning (some resource) none []⟩

def execution (code : UInt16) (message : String) (command : Option String) : Failure :=
  ⟨code, message, .execution command none []⟩

def build (code : UInt16) (message image : String) : Failure :=
  ⟨code, message, .build (some image) []⟩

/-- A placeholder as it stands in a template. -/
def writtenToken (name : String) : String := "$\x7b" ++ name ++ "\x7d"

/-- Some placeholders of a template have no value. -/
def unresolved (template : String) (tokens : List String) : Failure :=
  ⟨FailureCode.unresolvedTemplate,
    template ++ " has unresolved placeholders: " ++ ", ".intercalate (tokens.map writtenToken),
    .template tokens []⟩

def template (code : UInt16) (message : String) : Failure := ⟨code, message, .template [] []⟩

def apply (code : UInt16) (message manifest : String) : Failure :=
  ⟨code, message, .apply (some manifest) []⟩

def readiness (code : UInt16) (message workload : String) : Failure :=
  ⟨code, message, .readiness (some workload) none⟩

def pipeline (code : UInt16) (message : String) (stage : Option String) : Failure :=
  ⟨code, message, .pipeline stage []⟩

def usage (message : String) : Failure := ⟨FailureCode.unknownCommand, message, .usage⟩

/-! ### Adding to failures -/

/-- Sets the causes; a kind of failure without causes stays as it is. -/
def withCauses (causes : List String) (f : Failure) : Failure :=
  { f with matter := f.matter.withCauses causes }

/-- Adds to the message where the failure arose. -/
def withContext (context : String) (f : Failure) : Failure :=
  { f with message := f.message ++ ": " ++ context }

/-- Sets the remediation; a kind of failure without one stays as it is. -/
def withRemediation (text : String) (f : Failure) : Failure :=
  { f with matter := f.matter.withRemediation text }

/-- Sets the exit status of the command that failed. -/
def withExit (n : Int32) (f : Failure) : Failure := { f with matter := f.matter.withExit n }

/-- Passes the free text through `mask`; a chain of causes becomes one masked cause. -/
def masked (mask : String → String) (f : Failure) : Failure :=
  { f with message := mask f.message, matter := f.matter.masked mask }

/-! ### Reading failures -/

/-- The exit status of a program that fails with this. -/
def exitStatus (f : Failure) : Int32 := f.matter.exitStatus

/-- What the operator can do about it. -/
def remediation? (f : Failure) : Option String := f.matter.remediation?

/-- The code, the kind and the message. -/
def text (f : Failure) : String :=
  "[E" ++ Duration.padded 4 f.code.toNat ++ "] " ++ f.matter.title ++ " error: " ++ f.message

/-- The failure as the operator is told of it. -/
def userMessage (f : Failure) : String :=
  match f.matter with
  | .configuration .. => "Configuration problem: " ++ f.message
  | .prerequisite .. => "Missing prerequisite: " ++ f.message
  | .provisioning (some resource) .. =>
    "Provisioning of " ++ resource ++ " failed: " ++ f.message
  | .provisioning none .. => "Provisioning failed: " ++ f.message
  | .execution (some command) .. => "Command '" ++ command ++ "' failed: " ++ f.message
  | .execution none .. => "Execution error: " ++ f.message
  | .build (some image) _ => "Image " ++ image ++ " failed: " ++ f.message
  | .build none _ => "Build failed: " ++ f.message
  | .template .. => "Template error: " ++ f.message
  | .apply (some manifest) _ => "Applying " ++ manifest ++ " failed: " ++ f.message
  | .apply none _ => "Apply failed: " ++ f.message
  | .readiness (some workload) _ => "Workload " ++ workload ++ " not ready: " ++ f.message
  | .readiness none _ => "Readiness check failed: " ++ f.message
  | .pipeline (some stage) _ => "Stage '" ++ stage ++ "' cannot run: " ++ f.message
  | .pipeline none _ => "Pipeline error: " ++ f.message
  | .usage => f.message

/-- The failure with the chain of its causes, one on a line. -/
def developerMessage (f : Failure) : String :=
  f.text ++ String.join (f.matter.causes.map fun cause => "\n  caused by: " ++ cause)

/-! ### Laws -/

@[simp] theorem code_masked (mask : String → String) (f : Failure) :
    (f.masked mask).code = f.code := rfl

@[simp] theorem message_masked (mask : String → String) (f : Failure) :
    (f.masked mask).message = mask f.message := rfl

@[simp] theorem exitStatus_masked (mask : String → String) (f : Failure) :
    (f.masked mask).exitStatus = f.exitStatus := Matter.exitStatus_masked mask f.matter

end Failure

end Rollout
