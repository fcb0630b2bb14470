import Rollout.Files
import Rollout.Settings
import Rollout.Toml.Parser

/-!
# Settings from Toml

A record is written as a table of its fields, or as a list of their values in order. A field that is
not there has its default; names that are not fields say nothing, but the numbers under them are
read, while items of a list behind the last field are not looked at. A date is a table without any
of the fields. A kind or a predicate is written as its name, or as a table whose one field has that
name and nothing in it.
-/

namespace Rollout.Settings

/-! ### Pieces -/

/-- The fields of a record with the given field names. -/
def record? (names : List String) : Toml → Option (List (String × Toml))
  | .table fields =>
    if fields.all fun (name, v) => names.contains name || v.isReadable then some fields else none
  | .list items => some (names.zip items)
  | .date _ => some []
  | _ => none

/-- A field that has to be there. -/
def field? {α : Type} (fields : List (String × Toml)) (name : String) (read : Toml → Option α) :
    Option α :=
  (fields.lookup name).bind read

/-- A field, or its default. -/
def fieldOr? {α : Type} (fields : List (String × Toml)) (name : String) (read : Toml → Option α)
    (default : α) : Option α :=
  match fields.lookup name with
  | some v => read v
  | none => some default

def text? : Toml → Option String
  | .text s => some s
  | _ => none

def bool? : Toml → Option Bool
  | .bool b => some b
  | _ => none

def list? {α : Type} (read : Toml → Option α) : Toml → Option (List α)
  | .list items => items.mapM read
  | _ => none

/-- A text where one may be missing. -/
def optionalText? (v : Toml) : Option (Option String) := (text? v).map some

def duration? (v : Toml) : Option Duration := (text? v).bind Duration.parse?

/-- Whether a value has nothing in it. -/
def isVoid : Toml → Bool
  | .table [] | .list [] => true
  | _ => false

/-- One of some names. -/
def choice? {α : Type} (ofName? : String → Option α) : Toml → Option α
  | .text name => ofName? name
  | .table [(name, v)] => if isVoid v then ofName? name else none
  | _ => none

/-! ### Records -/

/-- A condition. -/
def condition? (v : Toml) : Option Condition := do
  let fields ← record? ["kind", "name", "namespace", "predicate", "timeout"] v
  let kind ← field? fields "kind" (choice? ResourceKind.ofName?)
  let name ← field? fields "name" text?
  let space ← fieldOr? fields "namespace" text? Condition.defaultNamespace
  let predicate ← fieldOr? fields "predicate" (choice? Predicate.ofName?) .available
  let timeout ← fieldOr? fields "timeout" duration? Condition.defaultTimeout
  return { kind, name, space, predicate, timeout }

def cluster? (v : Toml) : Option ClusterSettings := do
  let fields ← record? ["private_nodes", "release_channel"] v
  let privateNodes ← fieldOr? fields "private_nodes" bool? defaultCluster.privateNodes
  let releaseChannel ←
    fieldOr? fields "release_channel" optionalText? defaultCluster.releaseChannel
  return { privateNodes, releaseChannel }

def image? (v : Toml) : Option ImageSpec := do
  let fields ← record? ["name", "dockerfile"] v
  let name ← field? fields "name" text?
  let dockerfile ← fieldOr? fields "dockerfile" optionalText? none
  return { name, dockerfile }

def images? (v : Toml) : Option ImageSettings := do
  let fields ← record? ["context", "platform", "workloads"] v
  let context ← fieldOr? fields "context" text? defaultImages.context
  let platform ← fieldOr? fields "platform" optionalText? defaultImages.platform
  let workloads ← fieldOr? fields "workloads" (list? image?) defaultImages.workloads
  return { context, platform, workloads }

def baseApp? (v : Toml) : Option BaseAppSettings := do
  let fields ← record? ["extras", "manifests", "workloads"] v
  let extras ← fieldOr? fields "extras" (list? text?) defaultBaseApp.extras
  let manifests ← fieldOr? fields "manifests" text? defaultBaseApp.manifests
  let workloads ← fieldOr? fields "workloads" (list? condition?) defaultBaseApp.workloads
  return { extras, manifests, workloads }

def agents? (v : Toml) : Option AgentSettings := do
  let fields ← record? ["namespace", "template", "workloads"] v
  let space ← fieldOr? fields "namespace" text? defaultAgents.space
  let template ← fieldOr? fields "template" text? defaultAgents.template
  let workloads ← fieldOr? fields "workloads" (list? condition?) defaultAgents.workloads
  return { space, template, workloads }

def readiness? (v : Toml) : Option ReadinessSettings := do
  let fields ← record? ["poll_interval", "probe_timeout"] v
  let pollInterval ← fieldOr? fields "poll_interval" duration? defaultReadiness.pollInterval
  let probeTimeout ← fieldOr? fields "probe_timeout" duration? defaultReadiness.probeTimeout
  return { pollInterval, probeTimeout }

/-- The settings of a document. -/
def decode? (v : Toml) : Option Settings := do
  let fields ←
    record? ["required_tools", "apis", "cluster", "images", "base_app", "agents", "readiness"] v
  let requiredTools ← fieldOr? fields "required_tools" (list? text?) builtIn.requiredTools
  let apis ← fieldOr? fields "apis" (list? text?) builtIn.apis
  let cluster ← fieldOr? fields "cluster" cluster? defaultCluster
  let images ← fieldOr? fields "images" images? defaultImages
  let baseApp ← fieldOr? fields "base_app" baseApp? defaultBaseApp
  let agents ← fieldOr? fields "agents" agents? defaultAgents
  let readiness ← fieldOr? fields "readiness" readiness? defaultReadiness
  return { requiredTools, apis, cluster, images, baseApp, agents, readiness }

/-! ### Files -/

/-- The settings that a text spells. -/
def ofText (text : String) : Except Failure Settings :=
  match (Toml.parse? text).bind decode? with
  | some s => s.check
  | none => .error ((failure "Invalid settings").withCauses ["not well-formed"])

/-- The settings in a file. -/
def ofFile (files : Files) (path : String) : Except Failure Settings :=
  match files.read? path with
  | some text => (ofText text).mapError (·.withContext path)
  | none =>
    .error ((failure ("Cannot read settings file " ++ path)).withCauses
      ["no such file, or not a text"])

/-- The settings in a file if one is named, and else the built-in ones. -/
def load (files : Files) : Option String → Except Failure Settings
  | some path => ofFile files path
  | none => .ok builtIn

end Rollout.Settings
