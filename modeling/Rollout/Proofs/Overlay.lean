import Mathlib.Tactic.Tauto
import Rollout.Proofs.Acceptance
import Rollout.Proofs.SpelledSettings

/-!
# Settings files as overlays

A settings file says some things and leaves others out. Each *field* of the settings
(`Rollout.Settings.Field`) has a path through the tables of the document, a way in which it is
spelled and a built-in value, and stands for what the document has at its path, or else for the
built-in value. That a table is there changes nothing for the fields that it does not have, and no
name that is not on a path says anything.

| in a document | what is loaded |
|---|---|
| a field of the settings | what it spells, or else what is built in |
| a field of a condition in a list | what it spells, or else `default`, `available`, five minutes |
| the description of an image in a list | what it spells, or else `Dockerfile.<name>` in the context |

The main statement is `Rollout.Settings.overlaid_of_parse?`: the accepted documents are those that
spell usable settings in this way, and the settings that are loaded are the ones that they spell.
-/

namespace Rollout

/-! ### Paths -/

/-- The value at the end of a path of names through tables. -/
def Toml.at? (v : Toml) (path : List String) : Option Toml :=
  path.foldl (fun found name => found.bind (·.field? name)) (some v)

/-- Whether a value is a table. -/
def Toml.isTable : Toml → Bool
  | .table _ => true
  | _ => false

/-- The items of a list. -/
def Toml.items : Toml → List Toml
  | .list items => items
  | _ => []

namespace Settings

/-- **A field of the settings**, with the type of its values. -/
inductive Field : Type → Type
  | requiredTools : Field (List String)
  | apis : Field (List String)
  | privateNodes : Field Bool
  | releaseChannel : Field (Option String)
  | context : Field String
  | platform : Field (Option String)
  | images : Field (List ImageSpec)
  | extras : Field (List String)
  | manifests : Field String
  | baseWorkloads : Field (List Condition)
  | space : Field String
  | template : Field String
  | agentWorkloads : Field (List Condition)
  | pollInterval : Field Duration
  | probeTimeout : Field Duration

namespace Field

variable {α : Type}

/-- Where a document has a field. -/
def path : Field α → List String
  | requiredTools => ["required_tools"]
  | apis => ["apis"]
  | privateNodes => ["cluster", "private_nodes"]
  | releaseChannel => ["cluster", "release_channel"]
  | context => ["images", "context"]
  | platform => ["images", "platform"]
  | images => ["images", "workloads"]
  | extras => ["base_app", "extras"]
  | manifests => ["base_app", "manifests"]
  | baseWorkloads => ["base_app", "workloads"]
  | space => ["agents", "namespace"]
  | template => ["agents", "template"]
  | agentWorkloads => ["agents", "workloads"]
  | pollInterval => ["readiness", "poll_interval"]
  | probeTimeout => ["readiness", "probe_timeout"]

/-- The value of a field. -/
def of : Field α → Settings → α
  | requiredTools, s => s.requiredTools
  | apis, s => s.apis
  | privateNodes, s => s.cluster.privateNodes
  | releaseChannel, s => s.cluster.releaseChannel
  | context, s => s.images.context
  | platform, s => s.images.platform
  | images, s => s.images.workloads
  | extras, s => s.baseApp.extras
  | manifests, s => s.baseApp.manifests
  | baseWorkloads, s => s.baseApp.workloads
  | space, s => s.agents.space
  | template, s => s.agents.template
  | agentWorkloads, s => s.agents.workloads
  | pollInterval, s => s.readiness.pollInterval
  | probeTimeout, s => s.readiness.probeTimeout

/-- How a field is spelled. -/
def Spells : Field α → Toml → α → Prop
  | requiredTools | apis | extras => SpellsAll SpellsText
  | privateNodes => SpellsBool
  | releaseChannel | platform => SpellsSome
  | context | manifests | space | template => SpellsText
  | images => SpellsAll SpellsImage
  | baseWorkloads | agentWorkloads => SpellsAll SpellsCondition
  | pollInterval | probeTimeout => SpellsDuration

/-- What a document makes of a field: what it spells there, or else what is built in. -/
def Loads (doc : Toml) (field : Field α) (a : α) : Prop :=
  Stands field.Spells (field.of builtIn) (doc.at? field.path) a

end Field

/-- A file below a directory, by name. -/
inductive Below (dir name : String) : String → Prop
  /-- Where the directory has no name, it is the one where the program runs. -/
  | bare (h : dir = "") : Below dir name name
  | slashed {front : String} (h : dir = front ++ "/") : Below dir name (dir ++ name)
  | plain (hne : dir ≠ "") (h : ∀ front, dir ≠ front ++ "/") : Below dir name (dir ++ "/" ++ name)

/-- **Where the build of an image is described**: where it says, or else in the file with its name
below the context. -/
inductive DescribedAt (context : String) (image : ImageSpec) : String → Prop
  | given {path : String} (h : image.dockerfile = some path) : DescribedAt context image path
  | byName {path : String} (h : image.dockerfile = none)
      (hpath : Below context ("Dockerfile." ++ image.name) path) : DescribedAt context image path

/-- **The settings that a document lays over the built-in ones.** -/
structure Overlay (doc : Toml) (s : Settings) : Prop where
  fields : ∀ {α : Type} (field : Field α), field.Loads doc (field.of s)
  dockerfiles : ∀ image ∈ s.images.workloads,
    DescribedAt s.images.context image (s.images.dockerfileFor image)

/-- **A document with tables for records**, those in its lists included. -/
structure WrittenAsTables (doc : Toml) : Prop where
  records : ∀ name ∈ ["cluster", "images", "base_app", "agents", "readiness"], ∀ v,
    doc.at? [name] = some v → ∃ fields, v = .table fields
  items : ∀ name ∈ ["images", "base_app", "agents"], ∀ items,
    doc.at? [name, "workloads"] = some (.list items) → ∀ v ∈ items, ∃ fields, v = .table fields

theorem isTable_iff {v : Toml} : v.isTable = true ↔ ∃ fields, v = .table fields := by
  cases v <;> simp [Toml.isTable]

theorem writtenAsTables_iff {doc : Toml} : WrittenAsTables doc ↔
    (∀ name ∈ ["cluster", "images", "base_app", "agents", "readiness"], ∀ v ∈ doc.at? [name],
      v.isTable = true) ∧
    ∀ name ∈ ["images", "base_app", "agents"], ∀ v ∈ doc.at? [name, "workloads"],
      ∀ w ∈ v.items, w.isTable = true := by
  simp only [isTable_iff]
  constructor
  · rintro ⟨hrecords, hitems⟩
    refine ⟨hrecords, fun name hname v hv w hw => ?_⟩
    cases v with
    | list items => exact hitems name hname items hv w hw
    | _ => cases hw
  · rintro ⟨hrecords, hitems⟩
    exact ⟨hrecords, fun name hname items hlist w hw => hitems name hname _ hlist w hw⟩

instance {doc : Toml} : Decidable (WrittenAsTables doc) :=
  decidable_of_iff _ writtenAsTables_iff.symm

/-! ### Descriptions of images -/

theorem endsWithSlash_iff {dir : String} :
    dir.toList.getLast? = some '/' ↔ ∃ front, dir = front ++ "/" := by
  constructor
  · intro h
    obtain ⟨front, hfront⟩ := List.getLast?_eq_some_iff.mp h
    exact ⟨String.ofList front, String.toList_injective (by simp [hfront])⟩
  · rintro ⟨front, rfl⟩
    simp

theorem below_join (dir name : String) : Below dir name (ImageSettings.join dir name) := by
  unfold ImageSettings.join
  split
  · rename_i h
    rcases h with hempty | hslash
    · obtain rfl : dir = "" := by simpa using hempty
      rw [String.empty_append]
      exact .bare rfl
    · obtain ⟨front, hfront⟩ := endsWithSlash_iff.mp hslash
      exact .slashed hfront
  · rename_i h
    refine .plain (fun hempty => h (.inl (by simp [hempty]))) fun front hfront => ?_
    exact h (.inr (endsWithSlash_iff.mpr ⟨front, hfront⟩))

theorem describedAt_dockerfileFor (s : ImageSettings) (image : ImageSpec) :
    DescribedAt s.context image (s.dockerfileFor image) := by
  unfold ImageSettings.dockerfileFor
  cases h : image.dockerfile with
  | none => exact .byName h (below_join _ _)
  | some path => exact .given h

/-! ### Records

Each record below is read field by field, with the table that it has in the document or without one.
-/

variable {fields : List (String × Toml)}

/-- A record that may be left out is read as what is said of a table for it, or of none. What its
fields stand for is said of both alike. -/
theorem record_iff {σ : Type} {read : Toml → Option σ} {name : String} {default s : σ}
    (names : List String) (Says : Option Toml → σ → Prop) (hnone : ∀ s, Says none s ↔ s = default)
    (htidy : ∀ v, fields.lookup name = some v → v.Tidy)
    (hread : ∀ inner, fields.lookup name = some (.table inner) → ∀ s,
      read (.table inner) = some s ↔ Passes names inner ∧
        (∀ field ∈ names, Readable (inner.lookup field)) ∧ Says (some (.table inner)) s) :
    fieldOr? fields name read default = some s ↔
      Readable (fields.lookup name) ∧ Says (fields.lookup name) s := by
  refine fieldOr?_iff_of Says hnone fun v hv s => ?_
  obtain ⟨inner, rfl, hnamed⟩ := htidy v hv
  rw [hread inner hv s, isReadable_iff names hnamed.names, and_assoc]

theorem cluster_iff {s : ClusterSettings} (h : ∀ v, fields.lookup "cluster" = some v → v.Tidy) :
    fieldOr? fields "cluster" cluster? defaultCluster = some s ↔
      Readable (fields.lookup "cluster") ∧
        Field.privateNodes.Loads (.table fields) s.privateNodes ∧
        Field.releaseChannel.Loads (.table fields) s.releaseChannel := by
  refine record_iff ["private_nodes", "release_channel"] (fun v? (s : ClusterSettings) =>
    Stands SpellsBool defaultCluster.privateNodes (v?.bind (·.field? "private_nodes"))
      s.privateNodes ∧
    Stands SpellsSome defaultCluster.releaseChannel (v?.bind (·.field? "release_channel"))
      s.releaseChannel) ?_ h ?_
  · -- without a table there is none of its fields, and their defaults are those of the record
    rintro ⟨privateNodes, releaseChannel⟩
    simp [stands_none_iff, defaultCluster]
  · rintro inner hinner ⟨privateNodes, releaseChannel⟩
    have hread : cluster? (.table inner) = some ⟨privateNodes, releaseChannel⟩ ↔
        Passes ["private_nodes", "release_channel"] inner ∧
        fieldOr? inner "private_nodes" bool? defaultCluster.privateNodes = some privateNodes ∧
        fieldOr? inner "release_channel" optionalText? defaultCluster.releaseChannel =
          some releaseChannel := by
      simp [cluster?, Option.bind_eq_some_iff, record?_iff]
    rw [hread, fieldOr?_iff fun v _ => reads_bool v, fieldOr?_iff fun v _ => reads_optionalText v]
    simp only [List.forall_mem_cons]
    tauto

/-- **The tables of a document are tables**, those in the list of workloads below a name included. -/
structure TidyBelow (fields : List (String × Toml)) (name : String) : Prop where
  record : ∀ v, fields.lookup name = some v → v.Tidy
  items : ∀ items, (Toml.table fields).at? [name, "workloads"] = some (.list items) →
    ∀ w ∈ items, w.Tidy

/-- Workloads are read item by item. -/
theorem TidyBelow.reads {α : Type} {read : Toml → Option α} {Spells : Toml → α → Prop}
    {name : String} {inner : List (String × Toml)} {w : Toml} (h : TidyBelow fields name)
    (hread : ∀ w, w.Tidy → Reads read Spells w) (hinner : fields.lookup name = some (.table inner))
    (hw : inner.lookup "workloads" = some w) : Reads (list? read) (SpellsAll Spells) w := by
  refine reads_list fun items hitems v hv => hread v (h.items items ?_ v hv)
  change (fields.lookup name).bind (·.field? "workloads") = _
  rw [hinner, ← hitems, ← hw]
  rfl

theorem images_iff {s : ImageSettings} (h : TidyBelow fields "images") :
    fieldOr? fields "images" images? defaultImages = some s ↔
      Readable (fields.lookup "images") ∧
        Field.context.Loads (.table fields) s.context ∧
        Field.platform.Loads (.table fields) s.platform ∧
        Field.images.Loads (.table fields) s.workloads := by
  refine record_iff ["context", "platform", "workloads"] (fun v? (s : ImageSettings) =>
    Stands SpellsText defaultImages.context (v?.bind (·.field? "context")) s.context ∧
    Stands SpellsSome defaultImages.platform (v?.bind (·.field? "platform")) s.platform ∧
    Stands (SpellsAll SpellsImage) defaultImages.workloads (v?.bind (·.field? "workloads"))
      s.workloads) ?_ h.record ?_
  · rintro ⟨context, platform, workloads⟩
    simp [stands_none_iff, defaultImages]
  · rintro inner hinner ⟨context, platform, workloads⟩
    have hread : images? (.table inner) = some ⟨context, platform, workloads⟩ ↔
        Passes ["context", "platform", "workloads"] inner ∧
        fieldOr? inner "context" text? defaultImages.context = some context ∧
        fieldOr? inner "platform" optionalText? defaultImages.platform = some platform ∧
        fieldOr? inner "workloads" (list? image?) defaultImages.workloads = some workloads := by
      simp [images?, Option.bind_eq_some_iff, record?_iff]
    rw [hread, fieldOr?_iff fun v _ => reads_text v, fieldOr?_iff fun v _ => reads_optionalText v,
      fieldOr?_iff fun w hw => h.reads (fun _ => reads_image) hinner hw]
    simp only [List.forall_mem_cons]
    tauto

theorem baseApp_iff {s : BaseAppSettings} (h : TidyBelow fields "base_app") :
    fieldOr? fields "base_app" baseApp? defaultBaseApp = some s ↔
      Readable (fields.lookup "base_app") ∧
        Field.extras.Loads (.table fields) s.extras ∧
        Field.manifests.Loads (.table fields) s.manifests ∧
        Field.baseWorkloads.Loads (.table fields) s.workloads := by
  refine record_iff ["extras", "manifests", "workloads"] (fun v? (s : BaseAppSettings) =>
    Stands (SpellsAll SpellsText) defaultBaseApp.extras (v?.bind (·.field? "extras")) s.extras ∧
    Stands SpellsText defaultBaseApp.manifests (v?.bind (·.field? "manifests")) s.manifests ∧
    Stands (SpellsAll SpellsCondition) defaultBaseApp.workloads (v?.bind (·.field? "workloads"))
      s.workloads) ?_ h.record ?_
  · rintro ⟨extras, manifests, workloads⟩
    simp [stands_none_iff, defaultBaseApp]
  · rintro inner hinner ⟨extras, manifests, workloads⟩
    have hread : baseApp? (.table inner) = some ⟨extras, manifests, workloads⟩ ↔
        Passes ["extras", "manifests", "workloads"] inner ∧
        fieldOr? inner "extras" (list? text?) defaultBaseApp.extras = some extras ∧
        fieldOr? inner "manifests" text? defaultBaseApp.manifests = some manifests ∧
        fieldOr? inner "workloads" (list? condition?) defaultBaseApp.workloads = some workloads := by
      simp [baseApp?, Option.bind_eq_some_iff, record?_iff]
    rw [hread, fieldOr?_iff fun v _ => reads_texts v, fieldOr?_iff fun v _ => reads_text v,
      fieldOr?_iff fun w hw => h.reads (fun _ => reads_condition) hinner hw]
    simp only [List.forall_mem_cons]
    tauto

theorem agents_iff {s : AgentSettings} (h : TidyBelow fields "agents") :
    fieldOr? fields "agents" agents? defaultAgents = some s ↔
      Readable (fields.lookup "agents") ∧
        Field.space.Loads (.table fields) s.space ∧
        Field.template.Loads (.table fields) s.template ∧
        Field.agentWorkloads.Loads (.table fields) s.workloads := by
  refine record_iff ["namespace", "template", "workloads"] (fun v? (s : AgentSettings) =>
    Stands SpellsText defaultAgents.space (v?.bind (·.field? "namespace")) s.space ∧
    Stands SpellsText defaultAgents.template (v?.bind (·.field? "template")) s.template ∧
    Stands (SpellsAll SpellsCondition) defaultAgents.workloads (v?.bind (·.field? "workloads"))
      s.workloads) ?_ h.record ?_
  · rintro ⟨space, template, workloads⟩
    simp [stands_none_iff, defaultAgents]
  · rintro inner hinner ⟨space, template, workloads⟩
    have hread : agents? (.table inner) = some ⟨space, template, workloads⟩ ↔
        Passes ["namespace", "template", "workloads"] inner ∧
        fieldOr? inner "namespace" text? defaultAgents.space = some space ∧
        fieldOr? inner "template" text? defaultAgents.template = some template ∧
        fieldOr? inner "workloads" (list? condition?) defaultAgents.workloads = some workloads := by
      simp [agents?, Option.bind_eq_some_iff, record?_iff]
    rw [hread, fieldOr?_iff fun v _ => reads_text v, fieldOr?_iff fun v _ => reads_text v,
      fieldOr?_iff fun w hw => h.reads (fun _ => reads_condition) hinner hw]
    simp only [List.forall_mem_cons]
    tauto

theorem readiness_iff {s : ReadinessSettings}
    (h : ∀ v, fields.lookup "readiness" = some v → v.Tidy) :
    fieldOr? fields "readiness" readiness? defaultReadiness = some s ↔
      Readable (fields.lookup "readiness") ∧
        Field.pollInterval.Loads (.table fields) s.pollInterval ∧
        Field.probeTimeout.Loads (.table fields) s.probeTimeout := by
  refine record_iff ["poll_interval", "probe_timeout"] (fun v? (s : ReadinessSettings) =>
    Stands SpellsDuration defaultReadiness.pollInterval (v?.bind (·.field? "poll_interval"))
      s.pollInterval ∧
    Stands SpellsDuration defaultReadiness.probeTimeout (v?.bind (·.field? "probe_timeout"))
      s.probeTimeout) ?_ h ?_
  · rintro ⟨pollInterval, probeTimeout⟩
    simp [stands_none_iff, defaultReadiness]
  · rintro inner hinner ⟨pollInterval, probeTimeout⟩
    have hread : readiness? (.table inner) = some ⟨pollInterval, probeTimeout⟩ ↔
        Passes ["poll_interval", "probe_timeout"] inner ∧
        fieldOr? inner "poll_interval" duration? defaultReadiness.pollInterval = some pollInterval ∧
        fieldOr? inner "probe_timeout" duration? defaultReadiness.probeTimeout =
          some probeTimeout := by
      simp [readiness?, Option.bind_eq_some_iff, record?_iff]
    rw [hread, fieldOr?_iff fun v _ => reads_duration v, fieldOr?_iff fun v _ => reads_duration v]
    simp only [List.forall_mem_cons]
    tauto

/-! ### Documents -/

/-- **A document is read field by field.** -/
theorem decode?_iff {s : Settings} (hnamed : Toml.Named Toml.Distinct fields)
    (hcluster : ∀ v, fields.lookup "cluster" = some v → v.Tidy)
    (himages : TidyBelow fields "images") (hbaseApp : TidyBelow fields "base_app")
    (hagents : TidyBelow fields "agents")
    (hreadiness : ∀ v, fields.lookup "readiness" = some v → v.Tidy) :
    decode? (.table fields) = some s ↔ (Toml.table fields).isReadable = true ∧
      ∀ {α : Type} (field : Field α), field.Loads (.table fields) (field.of s) := by
  obtain ⟨requiredTools, apis, cluster, images, baseApp, agents, readiness⟩ := s
  have hread : decode? (.table fields) =
      some ⟨requiredTools, apis, cluster, images, baseApp, agents, readiness⟩ ↔
      Passes ["required_tools", "apis", "cluster", "images", "base_app", "agents", "readiness"]
        fields ∧
      fieldOr? fields "required_tools" (list? text?) builtIn.requiredTools = some requiredTools ∧
      fieldOr? fields "apis" (list? text?) builtIn.apis = some apis ∧
      fieldOr? fields "cluster" cluster? defaultCluster = some cluster ∧
      fieldOr? fields "images" images? defaultImages = some images ∧
      fieldOr? fields "base_app" baseApp? defaultBaseApp = some baseApp ∧
      fieldOr? fields "agents" agents? defaultAgents = some agents ∧
      fieldOr? fields "readiness" readiness? defaultReadiness = some readiness := by
    simp [decode?, Option.bind_eq_some_iff, record?_iff]
  rw [hread, fieldOr?_iff fun v _ => reads_texts v, fieldOr?_iff fun v _ => reads_texts v,
    cluster_iff hcluster, images_iff himages, baseApp_iff hbaseApp, agents_iff hagents,
    readiness_iff hreadiness, isReadable_iff
      ["required_tools", "apis", "cluster", "images", "base_app", "agents", "readiness"]
      hnamed.names]
  simp only [List.forall_mem_cons]
  -- both sides say the same of each name: that its numbers can be read, and what it stands for
  constructor
  · rintro ⟨hpasses, ⟨hr₁, htools⟩, ⟨hr₂, hapis⟩, ⟨hr₃, hprivate, hchannel⟩,
      ⟨hr₄, hcontext, hplatform, himages⟩, ⟨hr₅, hextras, hmanifests, hbase⟩,
      ⟨hr₆, hspace, htemplate, hagents⟩, hr₇, hpoll, hprobe⟩
    refine ⟨⟨hpasses, hr₁, hr₂, hr₃, hr₄, hr₅, hr₆, hr₇, nofun⟩, fun field => ?_⟩
    cases field with
    | requiredTools => exact htools
    | apis => exact hapis
    | privateNodes => exact hprivate
    | releaseChannel => exact hchannel
    | context => exact hcontext
    | platform => exact hplatform
    | images => exact himages
    | extras => exact hextras
    | manifests => exact hmanifests
    | baseWorkloads => exact hbase
    | space => exact hspace
    | template => exact htemplate
    | agentWorkloads => exact hagents
    | pollInterval => exact hpoll
    | probeTimeout => exact hprobe
  · rintro ⟨⟨hpasses, hr₁, hr₂, hr₃, hr₄, hr₅, hr₆, hr₇, -⟩, h⟩
    exact ⟨hpasses, ⟨hr₁, h .requiredTools⟩, ⟨hr₂, h .apis⟩,
      ⟨hr₃, h .privateNodes, h .releaseChannel⟩, ⟨hr₄, h .context, h .platform, h .images⟩,
      ⟨hr₅, h .extras, h .manifests, h .baseWorkloads⟩,
      ⟨hr₆, h .space, h .template, h .agentWorkloads⟩, hr₇, h .pollInterval, h .probeTimeout⟩

/-! ### Files -/

variable {doc : Toml} {text : String} {s : Settings}

theorem WrittenAsTables.tidy (h : WrittenAsTables (.table fields))
    (hnamed : Toml.Named Toml.Distinct fields) {name : String}
    (hname : name ∈ ["cluster", "images", "base_app", "agents", "readiness"]) :
    ∀ v, fields.lookup name = some v → v.Tidy := by
  intro v hv
  obtain ⟨inner, rfl⟩ := h.records name hname v hv
  exact ⟨inner, rfl, (hnamed.of_lookup hv).named⟩

theorem WrittenAsTables.tidyBelow (h : WrittenAsTables (.table fields))
    (hnamed : Toml.Named Toml.Distinct fields) {name : String}
    (hname : name ∈ ["images", "base_app", "agents"]) : TidyBelow fields name where
  record := by
    refine h.tidy hnamed ?_
    simp only [List.mem_cons] at hname ⊢
    tauto
  items items hitems w hw := by
    obtain ⟨inner, rfl⟩ := h.items name hname items hitems w hw
    obtain ⟨v, hv, hlist⟩ := Option.bind_eq_some_iff.mp hitems
    have hdistinct := ((hnamed.distinct.field? hv).field? hlist).item hw
    exact ⟨inner, rfl, hdistinct.named⟩

theorem ofText_iff (hdoc : Toml.parse? text = some doc) :
    ofText text = .ok s ↔ decode? doc = some s ∧ s.Usable := by
  constructor
  · intro h
    have husable := usable_of_ofText h
    rw [ofText, hdoc, Option.bind_some] at h
    split at h
    · rename_i s' hs'
      unfold check at h
      split at h
      · cases h
      · cases h
        exact ⟨hs', husable⟩
    · cases h
  · rintro ⟨hs, husable⟩
    refine (ofText_eq_ok_iff ?_).mpr husable
    rw [hdoc, Option.bind_some, hs]

/-- **A field spells one thing.** -/
theorem Field.unique_spells {α : Type} (field : Field α) : Relator.RightUnique field.Spells := by
  cases field with
  | requiredTools | apis | extras => exact unique_all unique_text
  | privateNodes => exact unique_bool
  | releaseChannel | platform => exact unique_some
  | context | manifests | space | template => exact unique_text
  | images => exact unique_all unique_image
  | baseWorkloads | agentWorkloads => exact unique_all unique_condition
  | pollInterval | probeTimeout => exact unique_duration

/-- **What a document makes of a field is settled by what it has at the path of the field.** -/
theorem Field.eq_of_loads {α : Type} {field : Field α} {doc' : Toml} {a a' : α}
    (h : field.Loads doc a) (h' : field.Loads doc' a')
    (hsame : doc.at? field.path = doc'.at? field.path) : a = a' := by
  rw [Field.Loads, ← hsame] at h'
  exact unique_stands field.unique_spells h h'

theorem ofText_iff_overlay (hdoc : Toml.parse? text = some doc) (htables : WrittenAsTables doc) :
    ofText text = .ok s ↔ doc.isReadable = true ∧ s.Usable ∧ Overlay doc s := by
  obtain ⟨fields, rfl, hnamed⟩ := Toml.distinct_parse? hdoc
  have hdecode := decode?_iff (s := s) hnamed (htables.tidy hnamed (by decide))
    (htables.tidyBelow hnamed (by decide)) (htables.tidyBelow hnamed (by decide))
    (htables.tidyBelow hnamed (by decide)) (htables.tidy hnamed (by decide))
  rw [ofText_iff hdoc, hdecode]
  constructor
  · rintro ⟨⟨hreadable, hfields⟩, husable⟩
    exact ⟨hreadable, husable, hfields, fun image _ => describedAt_dockerfileFor _ image⟩
  · rintro ⟨hreadable, husable, hoverlay⟩
    exact ⟨⟨hreadable, hoverlay.fields⟩, husable⟩

/-- **A settings file says what its fields spell, and the rest is built in.** The texts with tables
for records that are accepted are those that spell usable settings, and two of them that agree at
the path of a field agree on the field, whatever else they say. -/
theorem overlaid_of_parse? (hdoc : Toml.parse? text = some doc) (htables : WrittenAsTables doc) :
    (∀ s, ofText text = .ok s ↔ doc.isReadable = true ∧ s.Usable ∧ Overlay doc s) ∧
      ∀ {text' doc' s s'}, Toml.parse? text' = some doc' → WrittenAsTables doc' →
        ofText text = .ok s → ofText text' = .ok s' → ∀ {α : Type} (field : Field α),
          doc.at? field.path = doc'.at? field.path → field.of s = field.of s' := by
  refine ⟨fun s => ofText_iff_overlay hdoc htables, ?_⟩
  intro text' doc' s s' hdoc' htables' hs hs' α field hsame
  obtain ⟨-, -, hoverlay⟩ := (ofText_iff_overlay hdoc htables).mp hs
  obtain ⟨-, -, hoverlay'⟩ := (ofText_iff_overlay hdoc' htables').mp hs'
  exact Field.eq_of_loads (hoverlay.fields field) (hoverlay'.fields field) hsame

/-! ### A file that says little -/

/-- Something that is no field, one field of the waits, and one item in each list of two. -/
def sparseText : String :=
  "note = 1\n[readiness]\nprobe_timeout = \"10s\"\n" ++
  "[images]\ncontext = \"apps/\"\n[[images.workloads]]\nname = \"api\"\n" ++
  "[[agents.workloads]]\nkind = \"deployment\"\nname = \"api\"\n"

def sparseDocument : Toml :=
  .table [("note", .int 1), ("readiness", .table [("probe_timeout", .text "10s")]),
    ("images", .table [("context", .text "apps/"),
      ("workloads", .list [.table [("name", .text "api")]])]),
    ("agents", .table [("workloads",
      .list [.table [("kind", .text "deployment"), ("name", .text "api")]])])]

def sparseSettings : Settings :=
  { builtIn with
    images := ⟨"apps/", some "linux/amd64", [⟨"api", none⟩]⟩
    agents := ⟨"agents-ns", "k8s/agents-deployment.yaml",
      [⟨.deployment, "api", "default", .available, .ofSeconds 300⟩]⟩
    readiness := ⟨.ofSeconds 5, .ofSeconds 10⟩ }

/-- Both fields of the waits, and nothing else. -/
def briskText : String := "[readiness]\npoll_interval = \"1s\"\nprobe_timeout = \"10s\"\n"

def briskDocument : Toml :=
  .table [("readiness", .table [("poll_interval", .text "1s"), ("probe_timeout", .text "10s")])]

def briskSettings : Settings :=
  { builtIn with readiness := ⟨.ofSeconds 1, .ofSeconds 10⟩ }

/-- **Little is said, and the rest is built in**, also in a table of which a field is there. -/
theorem overlaid_sparseText :
    Toml.parse? sparseText = some sparseDocument ∧ WrittenAsTables sparseDocument ∧
      ofText sparseText = .ok sparseSettings ∧ Overlay sparseDocument sparseSettings ∧
      sparseSettings.images.dockerfileFor ⟨"api", none⟩ = "apps/Dockerfile.api" ∧
      Toml.parse? briskText = some briskDocument ∧ WrittenAsTables briskDocument ∧
      ofText briskText = .ok briskSettings ∧
      sparseSettings.readiness.probeTimeout = briskSettings.readiness.probeTimeout := by
  have hdoc : Toml.parse? sparseText = some sparseDocument := by decide +kernel
  have hdoc' : Toml.parse? briskText = some briskDocument := by decide +kernel
  have htables : WrittenAsTables sparseDocument := by decide
  have htables' : WrittenAsTables briskDocument := by decide
  have hs : ofText sparseText = .ok sparseSettings :=
    (ofText_iff hdoc).mpr ⟨by decide +kernel, check_eq_ok_iff.mp rfl⟩
  have hs' : ofText briskText = .ok briskSettings :=
    (ofText_iff hdoc').mpr ⟨by decide +kernel, check_eq_ok_iff.mp rfl⟩
  obtain ⟨haccepts, hagree⟩ := overlaid_of_parse? hdoc htables
  obtain ⟨-, -, hoverlay⟩ := (haccepts sparseSettings).mp hs
  exact ⟨hdoc, htables, hs, hoverlay, by decide, hdoc', htables', hs',
    hagree hdoc' htables' hs hs' .probeTimeout (by decide)⟩

end Settings

end Rollout
