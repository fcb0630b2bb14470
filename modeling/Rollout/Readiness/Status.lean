import Rollout.Json
import Rollout.Readiness.Condition

/-!
# The status of a workload

Whether a workload satisfies a predicate, judged from the object that the cluster describes it by,
with a few words that say where it stands.
-/

namespace Rollout

/-- One look at a workload. -/
structure Status where
  ready : Bool
  detail : String
  deriving DecidableEq, Repr

namespace Status

/-- The whole number at the end of some field names, or what counts in its place. -/
def intAt (object : Json) (path : List String) (default : Int) : Int :=
  ((object.path? path).bind Json.int64?).getD default

/-- A deployment is there when the cluster has seen its latest version and as many replicas as
wanted are available. -/
def ofDeployment (object : Json) : Status :=
  let desired := intAt object ["spec", "replicas"] 1
  let available := intAt object ["status", "availableReplicas"] 0
  let generation := intAt object ["metadata", "generation"] 0
  let observed := intAt object ["status", "observedGeneration"] 0
  let detail := toString available ++ "/" ++ toString desired ++ " available"
  if observed < generation then ⟨false, detail ++ ", rollout not yet observed"⟩
  else ⟨decide (desired ≤ available), detail⟩

/-- A stateful set is there when as many replicas as wanted are ready. -/
def ofStatefulSet (object : Json) : Status :=
  let desired := intAt object ["spec", "replicas"] 1
  let ready := intAt object ["status", "readyReplicas"] 0
  ⟨decide (desired ≤ ready), toString ready ++ "/" ++ toString desired ++ " ready"⟩

/-- The address of an entry: its `ip` where it has one, whatever it holds, and else its `hostname`.
Only a text that is not empty is an address. -/
def address? (entry : Json) : Option String :=
  (((entry.field? "ip").or (entry.field? "hostname")).bind Json.text?).filter fun s => !s.isEmpty

/-- A service is reachable when one of its entries has an address. -/
def ofService (object : Json) : Status :=
  let entries := ((object.path? ["status", "loadBalancer", "ingress"]).bind Json.items?).getD []
  match entries.findSome? address? with
  | some address => ⟨true, address⟩
  | none => ⟨false, "external address pending"⟩

/-- Whether the workload that an object describes satisfies a predicate. Only a service can be asked
for an address, and a service is available once it exists. -/
def evaluate (kind : ResourceKind) (predicate : Predicate) (object : Json) :
    Except String Status :=
  match kind, predicate with
  | .deployment, .available => .ok (ofDeployment object)
  | .statefulSet, .available => .ok (ofStatefulSet object)
  | .service, .available => .ok ⟨true, "service exists"⟩
  | .service, .externalIp => .ok (ofService object)
  | kind, .externalIp =>
    .error ("predicate external-ip only applies to services, not " ++ kind.name)

end Status

end Rollout
