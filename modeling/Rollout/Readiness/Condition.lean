import Rollout.Duration.Span

/-!
# Readiness conditions

What has to be true of a workload before the run goes on: a predicate of a resource, and how long to
wait for it.
-/

namespace Rollout

/-- The kinds of resources that can be waited for. -/
inductive ResourceKind
  | deployment | statefulSet | service
  deriving DecidableEq, Repr

/-- The name of a kind, as the cluster's tool knows it. -/
def ResourceKind.name : ResourceKind → String
  | deployment => "deployment"
  | statefulSet => "statefulset"
  | service => "service"

/-- The kind of a name. -/
def ResourceKind.ofName? (name : String) : Option ResourceKind :=
  [deployment, statefulSet, service].find? fun kind => kind.name = name

/-- What can be waited for. -/
inductive Predicate
  /-- As many replicas as wanted are there. -/
  | available
  /-- There is an address under which the resource is reached from outside. -/
  | externalIp
  deriving DecidableEq, Repr

def Predicate.name : Predicate → String
  | available => "available"
  | externalIp => "external-ip"

/-- The predicate of a name. -/
def Predicate.ofName? (name : String) : Option Predicate :=
  [available, externalIp].find? fun predicate => predicate.name = name

/-- A workload to wait for. -/
structure Condition where
  kind : ResourceKind
  name : String
  space : String
  predicate : Predicate
  timeout : Duration
  deriving DecidableEq, Repr

namespace Condition

/-- How long to wait where nothing else is said. -/
def defaultTimeout : Duration := .ofSeconds 300

/-- The longest wait that a condition can ask for. -/
def maxTimeout : Duration := .ofSeconds (24 * 60 * 60)

/-- Where workloads are where nothing else is said. -/
def defaultNamespace : String := "default"

/-- Waiting for the replicas of a workload. -/
def available (kind : ResourceKind) (name space : String) : Condition :=
  ⟨kind, name, space, .available, defaultTimeout⟩

/-- Kind and name, as the operator is shown them. -/
def workload (c : Condition) : String := c.kind.name ++ "/" ++ c.name

/-- The condition in words. -/
def describe (c : Condition) : String :=
  c.workload ++ " in " ++ c.space ++ " (" ++ c.predicate.name ++ ", timeout " ++
    c.timeout.describe ++ ")"

end Condition

/-- The kind of a kind's name is the kind. -/
theorem ResourceKind.ofName?_name (kind : ResourceKind) :
    ResourceKind.ofName? kind.name = some kind := by
  cases kind <;> decide

theorem Predicate.ofName?_name (predicate : Predicate) :
    Predicate.ofName? predicate.name = some predicate := by
  cases predicate <;> decide

end Rollout
