import Rollout.Proofs.Precedence
import Rollout.Proofs.Reading

/-!
# What an environment is asked for

Four of the settings are subject to a demand (`Rollout.Configuration.demands`): two have to be made,
and not as in the sample file, and two have to be positive numbers where they are made. The check
takes the demands in that order, and the first that is not met is what it refuses an environment
for (`Rollout.Configuration.Refused`).

An environment that meets all of them is accepted, and a configuration that `Fits` it comes of that:
it has the same entries whatever the environment, which are those that are declared, each setting is
what the environment `Makes` it, and the registry is put together from the region, the project and the
repository.

| the environment | the check |
|---|---|
| leaves out a required setting | 1001, `Rollout.Configuration.Demand.Breach.missing` |
| keeps a sample of it | 1002, `Rollout.Configuration.Demand.Breach.placeholder` |
| makes an interval no positive number | 1003, `Rollout.Configuration.Demand.Breach.invalid` |
| does none of these | a configuration, `Rollout.Configuration.Fits` |

The main statement is `Rollout.Configuration.judged_validate`.
-/

namespace Rollout.Configuration

/-! ### Demands -/

/-- A demand on one setting. -/
inductive Demand
  /-- The setting has to be made, and not to one of the samples. -/
  | real (name : String) (samples : List String)
  /-- Where the setting is made, it has to be a positive number. -/
  | positive (name : String)

/-- The demands, in the order in which they are checked. -/
def demands : List Demand :=
  [.real "PROJECT_ID" ["your-gcp-project-id", "your-project-id"],
   .real "GOOGLE_API_KEY" ["your-google-ai-api-key", "your-api-key"],
   .positive "MONITORING_INTERVAL",
   .positive "REPORT_INTERVAL_MINUTES"]

namespace Demand

/-- **An environment meets a demand.** -/
def Met (env : Environment) : Demand → Prop
  | real name samples =>
    ∃ value, env.SetTo name value ∧ ¬∃ sample ∈ samples, SameLetters sample value
  | positive name => ∀ value, env.SetTo name value → PositiveNumber value

/-- The name of the setting. -/
def name : Demand → String
  | real name _ => name
  | positive name => name

/-- **An environment falls short of a demand**, with the code of what is wrong. -/
inductive Breach (env : Environment) : Demand → UInt16 → Prop
  | missing {name : String} {samples : List String} (h : env.Unset name) :
      Breach env (.real name samples) 1001
  | placeholder {name value sample : String} {samples : List String} (h : env.SetTo name value)
      (hsample : sample ∈ samples) (hsame : SameLetters sample value) :
      Breach env (.real name samples) 1002
  | invalid {name value : String} (h : env.SetTo name value) (hvalue : ¬PositiveNumber value) :
      Breach env (.positive name) 1003

end Demand

/-- A failure names a key: as its subject, and as the first thing in its message. -/
structure Blames (f : Failure) (key : String) : Prop where
  subject : f.matter.key? = some key
  message : key.toList <+: f.message.toList

section Environments

variable {env env' : Environment} {c : Configuration} {d : Demand} {f : Failure}
  {name value default : String} {samples : List String} {code : UInt16}

theorem not_setTo_of_unset (h : env.Unset name) : ¬env.SetTo name value := by
  rw [← setting?_eq_some_iff, setting?_eq_none_iff.mpr h]
  exact nofun

theorem eq_of_setTo {value' : String} (h : env.SetTo name value) (h' : env.SetTo name value') :
    value = value' := by
  rw [← setting?_eq_some_iff] at h h'
  exact Option.some.inj (h.symm.trans h')

/-- A demand of which an environment falls short is not met. -/
theorem Demand.Breach.not_met (h : d.Breach env code) : ¬d.Met env := by
  cases h with
  | missing hunset => exact fun ⟨_, hset, _⟩ => not_setTo_of_unset hunset hset
  | placeholder hset hsample hsame =>
    rintro ⟨value', hset', hno⟩
    obtain rfl := eq_of_setTo hset hset'
    exact hno ⟨_, hsample, hsame⟩
  | invalid hset hvalue => exact fun hmet => hvalue (hmet _ hset)

/-! ### Single checks -/

/-- A required setting passes where the demand is met. -/
theorem met_of_required (h : required env name samples = .ok value) :
    (Demand.real name samples).Met env := by
  obtain ⟨hset, hsample⟩ := required_eq_ok_iff.mp h
  refine ⟨value, setting?_eq_some_iff.mp hset, fun hsame => ?_⟩
  rw [isSample_eq_true_iff.mpr hsame] at hsample
  cases hsample

/-- A required setting is refused with the key of the demand that it breaks. -/
theorem breach_of_required (h : required env name samples = .error f) :
    (Demand.real name samples).Breach env f.code ∧ Blames f name := by
  have hprefix (rest : String) : name.toList <+: (name ++ rest).toList := by
    rw [String.toList_append]
    exact List.prefix_append _ _
  unfold required at h
  split at h
  · rename_i hnone
    obtain rfl := Except.error.inj h
    exact ⟨.missing (setting?_eq_none_iff.mp hnone), rfl, hprefix _⟩
  · rename_i value hvalue
    split at h
    · rename_i hsample
      obtain rfl := Except.error.inj h
      obtain ⟨sample, hmem, hsame⟩ := isSample_eq_true_iff.mp hsample
      exact ⟨.placeholder (setting?_eq_some_iff.mp hvalue) hmem hsame, rfl, hprefix _⟩
    · cases h

theorem optional_of_setTo (h : env.SetTo name value) : optional env name default = value := by
  rw [optional, setting?_eq_some_iff.mpr h]
  rfl

/-- An interval passes where the demand is met. -/
theorem met_of_positive (h : positive env name default = .ok value) :
    (Demand.positive name).Met env := by
  intro value' hset
  rw [positive, optional_of_setTo hset] at h
  split at h
  · rename_i hpositive
    exact isPositive_eq_true_iff.mp hpositive
  · cases h

/-- An interval is refused with the key of the demand that it breaks; a default that is a positive
number is never the reason. -/
theorem breach_of_positive (hdefault : isPositive default = true)
    (h : positive env name default = .error f) :
    (Demand.positive name).Breach env f.code ∧ Blames f name := by
  unfold positive at h
  dsimp only at h
  split at h
  · cases h
  · rename_i hvalue
    obtain rfl := Except.error.inj h
    refine ⟨?_, rfl, ?_⟩
    · cases hset : setting? env name with
      | none =>
        -- what is not set is the default, and that passes
        rw [optional, hset] at hvalue
        exact absurd hdefault hvalue
      | some value =>
        have hset := setting?_eq_some_iff.mp hset
        rw [optional_of_setTo hset] at hvalue
        exact .invalid hset (isPositive_eq_true_iff.not.mp hvalue)
    · show name.toList <+: (name ++ ": " ++ _).toList
      rw [String.append_assoc, String.toList_append]
      exact List.prefix_append _ _

/-! ### The whole check -/

/-- **An environment is refused** for the first of the demands of which it falls short. -/
def Refused (env : Environment) (f : Failure) : Prop :=
  ∃ before d behind, demands = before ++ d :: behind ∧ (∀ e ∈ before, e.Met env) ∧
    d.Breach env f.code ∧ Blames f d.name

/-- What the check accepts meets all demands. -/
theorem met_of_validate (h : validate env = .ok c) : ∀ d ∈ demands, d.Met env := by
  have hdescribes := validate_eq_ok_iff.mp h
  simp only [demands, List.forall_mem_cons]
  exact ⟨met_of_required hdescribes.projectId, met_of_required hdescribes.apiKey,
    met_of_positive hdescribes.monitoringInterval, met_of_positive hdescribes.reportInterval, nofun⟩

/-- What the check refuses, it refuses for the first demand that is not met. -/
theorem refused_of_validate (h : validate env = .error f) : Refused env f := by
  rw [validate_eq] at h
  rcases error_of_bind h with h | ⟨projectId, hproject, h⟩
  · exact ⟨[], _, _, rfl, nofun, breach_of_required h⟩
  have hproject := met_of_required hproject
  rcases error_of_bind h with h | ⟨apiKey, hkey, h⟩
  · exact ⟨[_], _, _, rfl, List.forall_mem_singleton.mpr hproject, breach_of_required h⟩
  have hkey := met_of_required hkey
  rcases error_of_bind h with h | ⟨monitoring, hmonitoring, h⟩
  · refine ⟨[_, _], _, _, rfl, ?_, breach_of_positive (by decide) h⟩
    exact List.forall_mem_cons.mpr ⟨hproject, List.forall_mem_singleton.mpr hkey⟩
  have hmonitoring := met_of_positive hmonitoring
  rcases error_of_bind h with h | ⟨report, -, h⟩
  · refine ⟨[_, _, _], _, _, rfl, ?_, breach_of_positive (by decide) h⟩
    exact List.forall_mem_cons.mpr
      ⟨hproject, List.forall_mem_cons.mpr ⟨hkey, List.forall_mem_singleton.mpr hmonitoring⟩⟩
  · cases h

/-! ### Settings -/

/-- **What an environment makes a setting**: what the first of its names that is set is set to, or
else the default. -/
inductive Setting.Makes (env : Environment) (s : Setting) : String → Prop
  | named {before behind : List String} {name value : String}
      (hnames : s.names = before ++ name :: behind) (hbefore : ∀ n ∈ before, env.Unset n)
      (h : env.SetTo name value) : Makes env s value
  | default {value : String} (hunset : ∀ name ∈ s.names, env.Unset name)
      (hdefault : s.default? = some value) : Makes env s value

/-- A value that is set or a default is not empty. -/
theorem Setting.Makes.ne_empty {s : Setting} (h : s.Makes env value) : value ≠ "" := by
  cases h with
  | named _ _ hset =>
    obtain ⟨_, _, _, hne⟩ := hset
    exact hne
  | default _ hdefault =>
    revert hdefault
    cases s <;> simp only [Setting.default?, Option.some.injEq, reduceCtorEq, false_imp_iff] <;>
      rintro rfl <;> decide

/-- **A configuration has each setting as the environment makes it.** -/
theorem makes_of_validate (h : validate env = .ok c) (s : Setting) : s.Makes env (s.value c) := by
  rcases Option.or_eq_some_iff.mp (text?_or_default (s := s) h) with htext | ⟨hnone, hdefault⟩
  · obtain ⟨before, name, behind, hnames, hset, hbefore⟩ := List.findSome?_eq_some_iff.mp htext
    exact .named hnames (fun n hn => setting?_eq_none_iff.mp (hbefore n hn))
      (setting?_eq_some_iff.mp hset)
  · have hunset := List.findSome?_eq_none_iff.mp hnone
    exact .default (fun name hname => setting?_eq_none_iff.mp (hunset name hname)) hdefault

/-! ### What is declared -/

/-- **Every default passes the check of its own key**: a setting that need not be made is not refused
where it is not. -/
theorem read_default {key : Key} (hkey : key ∈ optionalKeys) (h : env.Unset key.name) :
    ∃ default ∈ key.default?, key.read env = .ok default := by
  have hdefault : ∀ key ∈ optionalKeys, ∃ default ∈ key.default?,
      key.numeric = true → isPositive default = true := by decide
  obtain ⟨default, hsome, hcheck⟩ := hdefault key hkey
  have hvalue : optional env key.name default = default := by
    rw [optional, setting?_eq_none_iff.mpr h]
    rfl
  refine ⟨default, hsome, ?_⟩
  rw [Key.read, hsome]
  dsimp only
  split
  · rename_i hnumeric
    rw [positive, hvalue]
    exact if_pos (hcheck hnumeric)
  · rw [hvalue]
    rfl

/-- Of all names one is declared to be secret. -/
theorem isSecret_iff : isSecret name = true ↔ name = "GOOGLE_API_KEY" := by
  simp [isSecret, requiredKeys, Key.required, apiKeyName, eq_comm]

/-! ### Accepted configurations -/

/-- **A configuration fits an environment.** -/
structure Fits (env : Environment) (c : Configuration) : Prop where
  /-- It has the same entries whatever the environment. -/
  keys : c.entries.map Prod.fst =
    ["ARTIFACT_REPOSITORY", "AUDIT_LOG_PATH", "CLUSTER_NAME", "GCP_LOCATION", "GOOGLE_API_KEY",
     "IMAGE_REGISTRY", "IMAGE_TAG", "LOG_LEVEL", "MONITORING_INTERVAL", "PROJECT_ID", "REGION",
     "REPORT_INTERVAL_MINUTES"]
  /-- These are the settings that are declared, the region under both of its names, and the registry. -/
  declared : (c.entries.map Prod.fst).Perm
    ((requiredKeys ++ optionalKeys).map Key.name ++ ["GCP_LOCATION", "REGION", "IMAGE_REGISTRY"])
  nonempty : ∀ entry ∈ c.entries, entry.2 ≠ ""
  /-- Each setting is entered under all of its names as the environment makes it. -/
  settings : ∀ s : Setting, ∃ value, s.Makes env value ∧ ∀ name ∈ s.names, c.get? name = some value
  /-- The registry is put together from three of the settings. -/
  registry : ∃ region project repository, c.get? "REGION" = some region ∧
    c.get? "PROJECT_ID" = some project ∧ c.get? "ARTIFACT_REPOSITORY" = some repository ∧
      c.get? "IMAGE_REGISTRY" =
        some (region ++ "-docker.pkg.dev/" ++ project ++ "/" ++ repository)
  /-- One of the entries is secret, and nothing else is. -/
  secret : (c.entries.map Prod.fst).filter isSecret = ["GOOGLE_API_KEY"]
  secret_iff : ∀ name, isSecret name = true ↔ name = "GOOGLE_API_KEY"

theorem registry_eq (c : Configuration) :
    c.registry = c.region ++ "-docker.pkg.dev/" ++ c.projectId ++ "/" ++ c.repository := by
  have hhost : "-docker.pkg.dev/" = "-docker.pkg.dev" ++ "/" := by decide
  rw [registry, registryHost, hhost, ← String.append_assoc]

/-- **What the check accepts fits the environment.** -/
theorem fits_of_validate (h : validate env = .ok c) : Fits env c where
  keys := rfl
  declared := by
    simp only [entries, List.map_cons, List.map_nil]
    decide
  nonempty := by
    rintro ⟨name, text⟩ hentry
    by_cases hname : name = registryName
    · subst hname
      have hregistry : text = c.registry := by
        simpa [entries, registryName, repositoryName, auditLogPathName, clusterNameName,
          locationName, apiKeyName, imageTagName, logLevelName, monitoringIntervalName,
          projectIdName, regionName, reportIntervalName] using hentry
      rw [hregistry, registry_eq]
      simp
    · obtain ⟨s, -, rfl⟩ := Setting.exists_of_mem_entries hentry hname
      exact (makes_of_validate h s).ne_empty
  settings s := ⟨s.value c, makes_of_validate h s, fun _ => Setting.get?_of_mem_names c⟩
  registry := ⟨c.region, c.projectId, c.repository, rfl, rfl, rfl, congrArg some (registry_eq c)⟩
  secret := by rfl
  secret_iff _ := isSecret_iff

/-- What no setting is named is not read. -/
theorem validate_congr_names (h : ∀ s : Setting, ∀ name ∈ s.names, env name = env' name) :
    validate env = validate env' :=
  validate_congr fun s => Setting.text?_congr fun name hname => setting?_congr (h s name hname)

/-- **What the check makes of an environment.** -/
structure Judged (env : Environment) (result : Except Failure Configuration) : Prop where
  /-- An environment is accepted exactly if it meets all demands. -/
  accepted_iff : (∃ c, result = .ok c) ↔ ∀ d ∈ demands, d.Met env
  /-- Another one is refused for the first demand that it does not meet. -/
  refused : ∀ f, result = .error f → Refused env f
  /-- An accepted one gives a configuration that fits it. -/
  fits : ∀ c, result = .ok c → Fits env c
  /-- A registry that the environment sets is not looked at. -/
  unread : ∀ env', (∀ name, name ≠ "IMAGE_REGISTRY" → env' name = env name) →
    validate env' = result

/-- **The check of an environment does what it is there for**: it asks for what is demanded and for
nothing else. -/
theorem judged_validate (env : Environment) : Judged env (validate env) where
  accepted_iff := by
    constructor
    · rintro ⟨c, hc⟩
      exact met_of_validate hc
    · intro hmet
      cases hvalid : validate env with
      | ok c => exact ⟨c, rfl⟩
      | error f =>
        obtain ⟨before, d, behind, hdemands, -, hbreach, -⟩ := refused_of_validate hvalid
        have hmem : d ∈ demands := by
          rw [hdemands]
          exact List.mem_append_right _ List.mem_cons_self
        exact absurd (hmet d hmem) hbreach.not_met
  refused _ := refused_of_validate
  fits _ := fits_of_validate
  unread env' hagree := by
    refine validate_congr_names fun s name hname => hagree name ?_
    rintro rfl
    revert hname
    cases s <;> decide

end Environments

end Rollout.Configuration
