import Rollout.Configuration.Validation

/-!
# What a validated configuration holds

A configuration is valid for an environment when each of its values is what the environment says of
it (`Rollout.Configuration.Describes`); the check comes to nothing else
(`Rollout.Configuration.validate_eq_ok_iff`). So what is read of an environment is read through its
settings, and two environments with the same settings are validated alike.
-/

namespace Rollout

/-- An attempt at a value that succeeds passes through each of its parts. -/
theorem ok_of_bind {ε α β : Type} {x : Except ε α} {f : α → Except ε β} {y : β}
    (h : x >>= f = .ok y) : ∃ a, x = .ok a ∧ f a = .ok y := by
  cases x with
  | ok a => exact ⟨a, rfl, h⟩
  | error e => cases h

/-- A value that is made in two steps fails in one of them. -/
theorem error_of_bind {ε α β : Type} {x : Except ε α} {f : α → Except ε β} {e : ε}
    (h : x >>= f = .error e) : x = .error e ∨ ∃ a, x = .ok a ∧ f a = .error e := by
  cases x with
  | ok a => exact .inr ⟨a, rfl, h⟩
  | error e' => exact .inl (congrArg _ (Except.error.inj h))

namespace Configuration

variable {env env' : Environment} {c : Configuration} {name default value : String}
  {samples : List String}

/-! ### Single values -/

theorem setting?_congr (h : env name = env' name) : setting? env name = setting? env' name := by
  rw [setting?, setting?, h]

/-- A value that has to be there is the setting, and is no sample. -/
theorem required_eq_ok_iff :
    required env name samples = .ok value ↔
      setting? env name = some value ∧ isSample samples value = false := by
  constructor
  · intro h
    unfold required at h
    split at h
    · cases h
    · rename_i text htext
      split at h
      · cases h
      · rename_i hsample
        obtain rfl := Except.ok.inj h
        exact ⟨htext, Bool.eq_false_iff.mpr hsample⟩
  · rintro ⟨hvalue, hsample⟩
    simp only [required, hvalue, hsample, Bool.false_eq_true, if_false]

theorem required_congr (h : setting? env name = setting? env' name) (samples : List String) :
    required env name samples = required env' name samples := by
  rw [required, required, h]

theorem optional_congr (h : setting? env name = setting? env' name) (default : String) :
    optional env name default = optional env' name default := by
  rw [optional, optional, h]

theorem positive_congr (h : setting? env name = setting? env' name) (default : String) :
    positive env name default = positive env' name default := by
  rw [positive, positive, optional_congr h]

/-- A number that passes the check is the setting, or else its default. -/
theorem eq_of_positive (h : positive env name default = .ok value) :
    value = optional env name default := by
  unfold positive at h
  dsimp only at h
  split at h
  · exact (Except.ok.inj h).symm
  · cases h

/-! ### All values -/

/-- **The check of an environment, key by key**: the four values that can be refused, in the order in
which they are checked, and behind them all others. -/
theorem validate_eq (env : Environment) : validate env = do
    let projectId ← required env projectIdName projectIdSamples
    let apiKey ← required env apiKeyName apiKeySamples
    let monitoringInterval ← positive env monitoringIntervalName "30"
    let reportInterval ← positive env reportIntervalName "60"
    return {
      projectId, apiKey, monitoringInterval, reportInterval
      region := regionOf env
      clusterName := optional env clusterNameName "boa-consent-cluster"
      auditLogPath := optional env auditLogPathName "/tmp/audit_log.json"
      logLevel := optional env logLevelName "INFO"
      repository := optional env repositoryName "consent-agents"
      imageTag := optional env imageTagName "latest" } := by
  simp only [validate, requiredKeys, optionalKeys, List.cons_append, List.nil_append, readKeys,
    Key.read, Key.required, Key.optional, bind_assoc, pure_bind]
  rfl

/-- **What an environment makes of a configuration**, value by value. -/
structure Describes (env : Environment) (c : Configuration) : Prop where
  projectId : required env projectIdName projectIdSamples = .ok c.projectId
  apiKey : required env apiKeyName apiKeySamples = .ok c.apiKey
  monitoringInterval : positive env monitoringIntervalName "30" = .ok c.monitoringInterval
  reportInterval : positive env reportIntervalName "60" = .ok c.reportInterval
  region : c.region = regionOf env
  clusterName : c.clusterName = optional env clusterNameName "boa-consent-cluster"
  auditLogPath : c.auditLogPath = optional env auditLogPathName "/tmp/audit_log.json"
  logLevel : c.logLevel = optional env logLevelName "INFO"
  repository : c.repository = optional env repositoryName "consent-agents"
  imageTag : c.imageTag = optional env imageTagName "latest"

/-- **An environment is valid exactly for the configuration that it describes.** -/
theorem validate_eq_ok_iff : validate env = .ok c ↔ Describes env c := by
  constructor
  · intro h
    rw [validate_eq] at h
    -- four values can be refused, and the others are what they are
    obtain ⟨projectId, hproject, h⟩ := ok_of_bind h
    obtain ⟨apiKey, hkey, h⟩ := ok_of_bind h
    obtain ⟨monitoring, hmonitoring, h⟩ := ok_of_bind h
    obtain ⟨report, hreport, h⟩ := ok_of_bind h
    cases h
    exact ⟨hproject, hkey, hmonitoring, hreport, rfl, rfl, rfl, rfl, rfl, rfl⟩
  · rintro ⟨hproject, hkey, hmonitoring, hreport, hregion, hcluster, hpath, hlevel, hrepository,
      htag⟩
    rw [validate_eq, hproject, hkey, hmonitoring, hreport, ← hregion, ← hcluster, ← hpath, ← hlevel,
      ← hrepository, ← htag]
    rfl

end Configuration

end Rollout
