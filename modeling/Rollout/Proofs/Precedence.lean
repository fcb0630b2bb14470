import Rollout.Environment.Layers
import Rollout.Proofs.Validation

/-!
# Which definition of a setting counts

A setting can be defined in two places, in the environment of the program and in the environment
file, and the environment of the program lies above. One setting, the region, can besides be made
under two names, of which the first is preferred. Layers are laid over each other name by name, so
the two orders meet in one way only: the name is chosen after the layers have been joined.

* A setting that the environment of the program sets keeps that value, whatever the file holds, if
  every name that is preferred to the one it is set under is defined there, too. That is so for
  every setting with a single name.
* Otherwise the file has the last word: where it sets a preferred name, that is the value.

What a setting comes to is the first of its names that is set (`Rollout.Configuration.Setting.text?`),
a configuration is made of its settings only (`Rollout.Configuration.validate_congr`), and each of
its entries but the derived one is a setting (`Rollout.Configuration.Setting.exists_of_mem_entries`).
The main statement is `Rollout.Configuration.precedence`; `Rollout.Configuration.region_overruled` is
an environment whose region gives way to the file.
-/

namespace Rollout

/-! ### Layers -/

namespace Environment

variable {env layered : Environment} {files : Files} {path : Option String}

theorem above_empty (env : Environment) : env.above empty = env := by
  funext name
  unfold above
  split
  · rename_i habsent
    rw [habsent]
    rfl
  · rfl

/-- **What is loaded lies below the environment of the program**, which is as it was where it defines
anything. -/
theorem eq_above_of_load (h : env.load files path = .ok layered) :
    ∃ definitions, layered = env.above (ofList definitions) := by
  have hfile {file : String} {required : Bool} (h : env.aboveFile files file required = .ok layered) :
      ∃ definitions, layered = env.above (ofList definitions) := by
    unfold aboveFile at h
    split at h
    · split at h
      · rename_i definitions _
        exact ⟨definitions, (Except.ok.inj h).symm⟩
      · cases h
    · split at h
      · cases h
      · exact ⟨[], (Except.ok.inj h).symm.trans (above_empty env).symm⟩
  cases path with
  | some file => exact hfile h
  | none => exact hfile h

theorem eq_of_load (h : env.load files path = .ok layered) {name : String}
    (hname : env name ≠ .absent) : layered name = env name := by
  obtain ⟨definitions, rfl⟩ := eq_above_of_load h
  exact above_of_ne_absent _ hname

end Environment

namespace Configuration

/-! ### Settings and their names -/

/-- What can be set. -/
inductive Setting
  | projectId | apiKey | region | clusterName | monitoringInterval | auditLogPath | reportInterval
  | logLevel | repository | imageTag
  deriving DecidableEq

namespace Setting

/-- The names under which a setting can be made, the preferred one first. -/
def names : Setting → List String
  | projectId => [projectIdName]
  | apiKey => [apiKeyName]
  | region => [locationName, regionName]
  | clusterName => [clusterNameName]
  | monitoringInterval => [monitoringIntervalName]
  | auditLogPath => [auditLogPathName]
  | reportInterval => [reportIntervalName]
  | logLevel => [logLevelName]
  | repository => [repositoryName]
  | imageTag => [imageTagName]

/-- The value of a setting in a configuration. -/
def value (c : Configuration) : Setting → String
  | projectId => c.projectId
  | apiKey => c.apiKey
  | region => c.region
  | clusterName => c.clusterName
  | monitoringInterval => c.monitoringInterval
  | auditLogPath => c.auditLogPath
  | reportInterval => c.reportInterval
  | logLevel => c.logLevel
  | repository => c.repository
  | imageTag => c.imageTag

/-- The value of a setting that is not made, where it need not be. -/
def default? : Setting → Option String
  | projectId | apiKey => none
  | region => some "us-central1"
  | clusterName => some "boa-consent-cluster"
  | monitoringInterval => some "30"
  | auditLogPath => some "/tmp/audit_log.json"
  | reportInterval => some "60"
  | logLevel => some "INFO"
  | repository => some "consent-agents"
  | imageTag => some "latest"

/-- All settings. -/
def all : List Setting :=
  [projectId, apiKey, region, clusterName, monitoringInterval, auditLogPath, reportInterval, logLevel,
    repository, imageTag]

/-- The setting that is made under a name. -/
def ofName? (name : String) : Option Setting := all.find? fun s => s.names.contains name

variable {s t : Setting} {name : String}

theorem ofName?_of_mem_names (h : name ∈ s.names) : ofName? name = some s := by
  revert name
  cases s <;> decide

/-- No name makes two settings. -/
theorem not_mem_names_of_ne (hname : name ∈ t.names) (hne : t ≠ s) : name ∉ s.names := by
  intro hs
  have hsame := (ofName?_of_mem_names hname).symm.trans (ofName?_of_mem_names hs)
  exact hne (Option.some.inj hsame)

/-- A setting is entered under each of its names. -/
theorem get?_of_mem_names (c : Configuration) (h : name ∈ s.names) :
    c.get? name = some (s.value c) := by
  cases s <;> simp only [names, List.mem_cons, List.not_mem_nil, or_false] at h <;>
    rcases h with rfl | rfl <;> rfl

/-- All entries but the one that is made of others are settings. -/
theorem exists_of_mem_entries {c : Configuration} {text : String} (h : (name, text) ∈ c.entries)
    (hname : name ≠ registryName) : ∃ s : Setting, name ∈ s.names ∧ text = s.value c := by
  simp only [entries, List.mem_cons, Prod.mk.injEq, List.not_mem_nil, or_false] at h
  rcases h with ⟨rfl, rfl⟩ | ⟨rfl, rfl⟩ | ⟨rfl, rfl⟩ | ⟨rfl, rfl⟩ | ⟨rfl, rfl⟩ | ⟨rfl, rfl⟩ |
    ⟨rfl, rfl⟩ | ⟨rfl, rfl⟩ | ⟨rfl, rfl⟩ | ⟨rfl, rfl⟩ | ⟨rfl, rfl⟩ | ⟨rfl, rfl⟩
  · exact ⟨repository, List.mem_cons_self, rfl⟩
  · exact ⟨auditLogPath, List.mem_cons_self, rfl⟩
  · exact ⟨clusterName, List.mem_cons_self, rfl⟩
  · exact ⟨region, List.mem_cons_self, rfl⟩
  · exact ⟨apiKey, List.mem_cons_self, rfl⟩
  · exact absurd rfl hname
  · exact ⟨imageTag, List.mem_cons_self, rfl⟩
  · exact ⟨logLevel, List.mem_cons_self, rfl⟩
  · exact ⟨monitoringInterval, List.mem_cons_self, rfl⟩
  · exact ⟨projectId, List.mem_cons_self, rfl⟩
  · exact ⟨region, List.mem_cons_of_mem _ List.mem_cons_self, rfl⟩
  · exact ⟨reportInterval, List.mem_cons_self, rfl⟩

/-! ### What a setting comes to -/

/-- What an environment sets a setting to: the text of the first of its names that is set. -/
def text? (env : Environment) (s : Setting) : Option String := s.names.findSome? (setting? env)

theorem text?_congr {env env' : Environment}
    (h : ∀ name ∈ s.names, setting? env name = setting? env' name) : s.text? env = s.text? env' := by
  unfold text?
  generalize s.names = names at h
  induction names with
  | nil => rfl
  | cons first rest ih =>
    rw [List.findSome?_cons, List.findSome?_cons, h first List.mem_cons_self,
      ih fun name hname => h name (List.mem_cons_of_mem _ hname)]

/-- The names that are preferred to the one under which an environment makes a setting. -/
def preferred (env : Environment) (s : Setting) : List String :=
  s.names.takeWhile fun name => (setting? env name).isNone

end Setting

section Layers

variable {env layered : Environment} {name value : String}

theorem ne_absent_of_setting? (h : setting? env name = some value) : env name ≠ .absent := by
  intro habsent
  rw [setting?, habsent] at h
  cases h

/-- **Names are chosen behind the layers**: among names of which the upper layer sets one, those in
front of it decide, and only behind them the upper layer. -/
theorem findSome?_of_above {names : List String}
    (habove : ∀ name, env name ≠ .absent → layered name = env name)
    (h : names.findSome? (setting? env) = some value) :
    names.findSome? (setting? layered) =
      ((names.takeWhile fun name => (setting? env name).isNone).findSome? (setting? layered)).or
        (some value) := by
  induction names with
  | nil => cases h
  | cons first rest ih =>
    cases hfirst : setting? env first with
    | none =>
      rw [List.findSome?_cons, hfirst] at h
      rw [List.takeWhile_cons, hfirst, Option.isNone_none, if_pos rfl, List.findSome?_cons,
        List.findSome?_cons, ih h]
      cases setting? layered first <;> rfl
    | some text =>
      have hset : setting? layered first = some text :=
        (setting?_congr (habove first (ne_absent_of_setting? hfirst))).trans hfirst
      rw [List.findSome?_cons, hfirst] at h
      rw [List.takeWhile_cons, hfirst, List.findSome?_cons, hset]
      exact h

end Layers

/-! ### Configurations and their settings -/

section Configurations

variable {env env' : Environment} {c : Configuration} {s : Setting} {name value : String}

theorem text?_of_names_eq (h : s.names = [name]) : s.text? env = setting? env name := by
  rw [Setting.text?, h, List.findSome?_singleton]

theorem regionOf_eq (env : Environment) :
    regionOf env = (Setting.region.text? env).getD "us-central1" := by
  rw [regionOf, Setting.text?, Setting.names, List.findSome?_cons, List.findSome?_singleton]
  cases setting? env locationName <;> rfl

/-- **A configuration is made of its settings only.** -/
theorem validate_congr (h : ∀ s : Setting, s.text? env = s.text? env') :
    validate env = validate env' := by
  have hsetting {s : Setting} {name : String} (hname : s.names = [name]) :
      setting? env name = setting? env' name := by
    rw [← text?_of_names_eq hname, ← text?_of_names_eq hname, h s]
  have hregion : regionOf env = regionOf env' := by
    rw [regionOf_eq, regionOf_eq, h .region]
  rw [validate_eq, validate_eq, required_congr (hsetting (s := .projectId) rfl), required_congr (hsetting (s := .apiKey) rfl),
    positive_congr (hsetting (s := .monitoringInterval) rfl),
    positive_congr (hsetting (s := .reportInterval) rfl), hregion,
    optional_congr (hsetting (s := .clusterName) rfl),
    optional_congr (hsetting (s := .auditLogPath) rfl),
    optional_congr (hsetting (s := .logLevel) rfl),
    optional_congr (hsetting (s := .repository) rfl),
    optional_congr (hsetting (s := .imageTag) rfl)]

/-- **A valid configuration has each setting as the environment sets it**, or else its default. -/
theorem text?_or_default (hc : validate env = .ok c) :
    (s.text? env).or s.default? = some (s.value c) := by
  have hdescribes := validate_eq_ok_iff.mp hc
  have hrequired {name value : String} {samples : List String} (hname : s.names = [name])
      (h : required env name samples = .ok value) : (s.text? env).or s.default? = some value := by
    rw [text?_of_names_eq hname, (required_eq_ok_iff.mp h).1]
    rfl
  have hoptional {name default value : String} (hname : s.names = [name])
      (hdefault : s.default? = some default) (h : value = optional env name default) :
      (s.text? env).or s.default? = some value := by
    rw [text?_of_names_eq hname, hdefault, Option.or_some, h, optional]
  cases s with
  | projectId => exact hrequired rfl hdescribes.projectId
  | apiKey => exact hrequired rfl hdescribes.apiKey
  | region =>
    have hregion := hdescribes.region
    rw [regionOf_eq] at hregion
    rw [Setting.value, hregion]
    exact Option.or_some
  | clusterName => exact hoptional rfl rfl hdescribes.clusterName
  | monitoringInterval => exact hoptional rfl rfl (eq_of_positive hdescribes.monitoringInterval)
  | auditLogPath => exact hoptional rfl rfl hdescribes.auditLogPath
  | reportInterval => exact hoptional rfl rfl (eq_of_positive hdescribes.reportInterval)
  | logLevel => exact hoptional rfl rfl hdescribes.logLevel
  | repository => exact hoptional rfl rfl hdescribes.repository
  | imageTag => exact hoptional rfl rfl hdescribes.imageTag

theorem value_of_validate (hc : validate env = .ok c) (hs : s.text? env = some value) :
    s.value c = value := by
  have hvalue := text?_or_default (s := s) hc
  rw [hs] at hvalue
  exact (Option.some.inj hvalue).symm

end Configurations

/-! ### Precedence -/

section Loads

variable {env layered layered' : Environment} {files files' : Files} {path path' : Option String}
  {c : Configuration} {s : Setting} {name value : String}

/-- Only the region has names of which one is preferred. -/
theorem preferred_cases (h : s.text? env = some value) :
    s.preferred env = [] ∨ s = .region ∧ s.preferred env = [locationName] := by
  have hsingle {name : String} (hname : s.names = [name]) : s.preferred env = [] := by
    rw [text?_of_names_eq hname] at h
    rw [Setting.preferred, hname, List.takeWhile_cons, h]
    rfl
  cases s with
  | region =>
    cases hlocation : setting? env locationName with
    | some text =>
      left
      rw [Setting.preferred, Setting.names, List.takeWhile_cons, hlocation]
      rfl
    | none =>
      right
      have hregion : setting? env regionName = some value := by
        rwa [Setting.text?, Setting.names, List.findSome?_cons, hlocation,
          List.findSome?_singleton] at h
      rw [Setting.preferred, Setting.names, List.takeWhile_cons, hlocation, List.takeWhile_cons,
        hregion]
      exact ⟨rfl, rfl⟩
  | _ => exact .inl (hsingle rfl)

/-- What a setting comes to below a file: a preferred name first, and then the environment of the
program. -/
theorem text?_of_load (h : s.text? env = some value) (hload : env.load files path = .ok layered) :
    s.text? layered = ((s.preferred env).findSome? (setting? layered)).or (some value) :=
  findSome?_of_above (fun _ => Environment.eq_of_load hload) h

/-- A file has no say in a setting whose preferred names are all defined above it. -/
theorem text?_of_load_of_defined (h : s.text? env = some value)
    (hdefined : ∀ name ∈ s.preferred env, env name ≠ .absent)
    (hload : env.load files path = .ok layered) : s.text? layered = some value := by
  have hnone : (s.preferred env).findSome? (setting? layered) = none := by
    rw [List.findSome?_eq_none_iff]
    intro name hname
    have hunset := List.all_eq_true.mp List.all_takeWhile name hname
    rw [setting?_congr (Environment.eq_of_load hload (hdefined name hname))]
    exact Option.isNone_iff_eq_none.mp hunset
  rw [text?_of_load h hload, hnone]
  rfl

/-- **Which definition of a setting counts**, where the environment of the program sets the setting
to a value. -/
structure Precedence (env : Environment) (s : Setting) (value : String) : Prop where
  /-- That value counts, whatever the file, if the preferred names are defined there, too. -/
  wins : (∀ name ∈ s.preferred env, env name ≠ .absent) → ∀ files path layered c,
    env.load files path = .ok layered → validate layered = .ok c →
      ∀ name ∈ s.names, c.get? name = some value
  /-- What else a file makes of the names of the setting has then no effect at all. -/
  frame : (∀ name ∈ s.preferred env, env name ≠ .absent) →
    ∀ files path layered files' path' layered', env.load files path = .ok layered →
      env.load files' path' = .ok layered' → (∀ name, name ∉ s.names → layered name = layered' name) →
        validate layered = validate layered'
  /-- There is at most one preferred name, and for the region only. -/
  preferred : s.preferred env = [] ∨ s = .region ∧ s.preferred env = [locationName]
  /-- Where that name is not defined above, a file that sets it overrules the value. -/
  overruled : ∀ preferred ∈ s.preferred env, env preferred = .absent → ∀ files path layered c,
    env.load files path = .ok layered → validate layered = .ok c →
      ∀ name ∈ s.names, c.get? name = some ((setting? layered preferred).getD value)

/-- **The environment of the program wins over the file** but for one thing: the file may set a name
that is preferred. -/
theorem precedence (h : s.text? env = some value) : Precedence env s value where
  wins hdefined files path layered c hload hc name hname := by
    have htext : s.text? layered = some value := text?_of_load_of_defined h hdefined hload
    rw [Setting.get?_of_mem_names c hname, value_of_validate hc htext]
  frame hdefined files path layered files' path' layered' hload hload' hagree := by
    refine validate_congr fun t => ?_
    by_cases ht : t = s
    · subst ht
      rw [text?_of_load_of_defined h hdefined hload, text?_of_load_of_defined h hdefined hload']
    · -- the names of another setting are not among those that the files may disagree on
      have hsame : ∀ name ∈ t.names, setting? layered name = setting? layered' name :=
        fun name hname => setting?_congr (hagree name (Setting.not_mem_names_of_ne hname ht))
      exact Setting.text?_congr hsame
  preferred := preferred_cases h
  overruled preferred hpreferred habsent files path layered c hload hc name hname := by
    rcases preferred_cases h with hnone | ⟨-, hone⟩
    · rw [hnone] at hpreferred
      cases hpreferred
    · rw [hone] at hpreferred
      obtain rfl := List.mem_singleton.mp hpreferred
      have htext := text?_of_load h hload
      rw [hone, List.findSome?_singleton] at htext
      rw [Setting.get?_of_mem_names c hname]
      cases hlocation : setting? layered locationName with
      | none =>
        rw [hlocation] at htext
        exact congrArg some (value_of_validate hc htext)
      | some text =>
        rw [hlocation] at htext
        exact congrArg some (value_of_validate hc htext)

end Loads

/-! ### A region under two names -/

/-- The environment of a small deployment that sets the region under the second of its names, and
has this to say of the first. -/
def regionEnvironment (location : Reading) : Environment := .ofReadings
  [(projectIdName, .text "demo"), (apiKeyName, .text "key"), (locationName, location),
    (regionName, .text "europe-west1")]

/-- A file that sets the region under the first of its names. -/
def locationFiles : Files := ⟨[], [([".env"], .text "GCP_LOCATION=asia-east1\n")]⟩

theorem load_locationFiles (location : Reading) :
    (regionEnvironment location).load locationFiles none =
      .ok ((regionEnvironment location).above (.ofList [(locationName, "asia-east1")])) := by
  have hexists : locationFiles.exists? Environment.defaultFile = true := by decide
  have hread : locationFiles.read? Environment.defaultFile = some "GCP_LOCATION=asia-east1\n" := by
    decide
  have hparse : EnvironmentFile.parse? (regionEnvironment location) "GCP_LOCATION=asia-east1\n" =
      some [(locationName, "asia-east1")] := by rfl
  simp only [Environment.load, Environment.aboveFile, hexists, hread, Option.bind_some, hparse]
  rfl

/-- The configuration of that deployment in some region. -/
def regionConfiguration (region : String) : Configuration :=
  ⟨"demo", "key", region, "boa-consent-cluster", "30", "/tmp/audit_log.json", "60", "INFO",
    "consent-agents", "latest"⟩

/-- A first name that is defined and blank leaves the region to the second one, and the file has no
say in it. -/
theorem precedence_blank_location :
    Setting.region.text? (regionEnvironment (.text " ")) = some "europe-west1" ∧
      Precedence (regionEnvironment (.text " ")) .region "europe-west1" ∧
      (∀ name ∈ Setting.region.preferred (regionEnvironment (.text " ")),
        regionEnvironment (.text " ") name ≠ .absent) ∧
      ∃ layered c, (regionEnvironment (.text " ")).load locationFiles none = .ok layered ∧
        validate layered = .ok c ∧ c.get? regionName = some "europe-west1" := by
  have htext : Setting.region.text? (regionEnvironment (.text " ")) = some "europe-west1" := by
    decide +kernel
  have hprecedence : Precedence (regionEnvironment (.text " ")) .region "europe-west1" :=
    precedence htext
  have hdefined : ∀ name ∈ Setting.region.preferred (regionEnvironment (.text " ")),
      regionEnvironment (.text " ") name ≠ .absent := by decide +kernel
  have hload := load_locationFiles (.text " ")
  have hregion : regionOf ((regionEnvironment (.text " ")).above
      (.ofList [(locationName, "asia-east1")])) = "europe-west1" := by decide +kernel
  have hvalid : validate ((regionEnvironment (.text " ")).above
      (.ofList [(locationName, "asia-east1")])) = .ok (regionConfiguration "europe-west1") :=
    validate_eq_ok_iff.mpr ⟨rfl, rfl, rfl, rfl, hregion.symm, rfl, rfl, rfl, rfl, rfl⟩
  have hwins := hprecedence.wins hdefined _ _ _ _ hload hvalid regionName
    (List.mem_cons_of_mem _ List.mem_cons_self)
  exact ⟨htext, hprecedence, hdefined, _, _, hload, hvalid, hwins⟩

/-- **A file overrules the region** of an environment that sets it under the second of its names
only: what is set above the file does not count, as it does without the file. -/
theorem region_overruled :
    setting? (regionEnvironment .absent) regionName = some "europe-west1" ∧
      (∃ layered c, (regionEnvironment .absent).load locationFiles none = .ok layered ∧
        validate layered = .ok c ∧ c.get? regionName = some "asia-east1") ∧
      ∃ layered c, (regionEnvironment .absent).load .empty none = .ok layered ∧
        validate layered = .ok c ∧ c.get? regionName = some "europe-west1" := by
  have hset : setting? (regionEnvironment .absent) regionName = some "europe-west1" := by
    decide +kernel
  have hnone : Files.empty.exists? Environment.defaultFile = false := by decide
  have hload : (regionEnvironment .absent).load .empty none = .ok (regionEnvironment .absent) := by
    simp only [Environment.load, Environment.aboveFile, hnone]
    rfl
  have hvalid : validate (regionEnvironment .absent) =
      .ok (regionConfiguration "europe-west1") := by rfl
  have hoverruled : validate ((regionEnvironment .absent).above
      (.ofList [(locationName, "asia-east1")])) = .ok (regionConfiguration "asia-east1") := by rfl
  exact ⟨hset, ⟨_, _, load_locationFiles .absent, hoverruled, rfl⟩, _, _, hload, hvalid, rfl⟩

end Configuration

end Rollout
