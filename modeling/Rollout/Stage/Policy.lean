import Rollout.Process.Output
import Rollout.Text.Search

/-!
# Duplicates

To create what already exists is the normal case when a deployment is run again. Each stage says
whether a duplicate is acceptable to it; `Policy.resolve` decides so from the output of a command.
-/

namespace Rollout

/-- What a duplicate means to a stage. -/
inductive Policy
  /-- The stage creates nothing. -/
  | notApplicable
  | failOnDuplicate
  | treatDuplicateAsSuccess
  deriving DecidableEq, Repr

/-- What became of creating something. -/
inductive Creation
  | created | alreadyExisted
  deriving DecidableEq, Repr

namespace Policy

/-- The policies by name. -/
def name : Policy → String
  | notApplicable => "not-applicable"
  | failOnDuplicate => "fail-on-duplicate"
  | treatDuplicateAsSuccess => "treat-duplicate-as-success"

/-- The policy of a name. -/
def ofName? (name : String) : Option Policy :=
  [notApplicable, failOnDuplicate, treatDuplicateAsSuccess].find? fun policy => policy.name = name

/-- Whether a stage with this policy creates anything. -/
def creates (policy : Policy) : Bool := policy ≠ .notApplicable

/-- The words with which tools say that something already exists. -/
def duplicateMarkers : List String := ["already exists", "ALREADY_EXISTS", "AlreadyExists"]

/-- Whether an error text says that something already exists. -/
def saysDuplicate (stderr : String) : Bool := duplicateMarkers.any (Text.contains stderr)

/-- What became of creating something, judged from the output of the command that `label` names.
Only an ordinary failure can be a duplicate. -/
def resolve (policy : Policy) (label : String) (o : Output) : Except ProcessError Creation :=
  match o.status with
  | .success => .ok .created
  | .error exit =>
    if policy = .treatDuplicateAsSuccess ∧ saysDuplicate o.stderr then .ok .alreadyExisted
    else .error (.failed label exit (Text.trim o.stderr))
  | .signal number => .error (.signal number)
  | .timeout => .error (.timeout o.duration)

end Policy

end Rollout
