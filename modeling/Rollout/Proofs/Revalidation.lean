import Rollout.Proofs.Demands

/-!
# Validating a configuration again

The entries of a configuration can be taken for an environment: one that defines each of them as it
stands and nothing else (`Rollout.Environment.HoldsExactly`). Such an environment is valid, and the
configuration that it describes is the one whose entries it holds, so a second validation has
nothing left to change.

| entry | why it stays |
|---|---|
| a value that was set | it is a core, and so its own core |
| a default | it is a core, too, and now it is set |
| a required value | it was compared with the samples as it stands |
| an interval | its text is kept, and with it the number that it spells |
| the region | both of its names are defined, and alike |
| the registry | it is not read, and what it is put together from stays |

The main statement is `Rollout.Configuration.reproduced_of_validate`.
-/

namespace Rollout

/-- A core has no blanks at its ends, so it is its own core. -/
theorem Text.IsCore.self {cs core : List Char} (h : IsCore cs core) : IsCore core core where
  within := ⟨[], [], by simp, nofun, nofun⟩
  first := h.first
  last := h.last

/-! ### Environments of entries -/

/-- **An environment holds exactly some entries**: it defines each of them as it stands, and nothing
else. -/
structure Environment.HoldsExactly (env : Environment) (entries : List (String × String)) :
    Prop where
  entry : ∀ name value, (name, value) ∈ entries → env name = .text value
  absent : ∀ name, name ∉ entries.map Prod.fst → env name = .absent

namespace Environment.HoldsExactly

variable {env env' : Environment} {entries : List (String × String)}

theorem unique (h : env.HoldsExactly entries) (h' : env'.HoldsExactly entries) : env = env' := by
  funext name
  by_cases hname : name ∈ entries.map Prod.fst
  · obtain ⟨⟨_, value⟩, hentry, rfl⟩ := List.mem_map.mp hname
    rw [h.entry _ _ hentry, h'.entry _ _ hentry]
  · rw [h.absent _ hname, h'.absent _ hname]

/-- Entries of different names are held by the environment that is made of them. -/
theorem ofList (h : (entries.map Prod.fst).Nodup) :
    (Environment.ofList entries).HoldsExactly entries where
  entry name value hentry := by
    obtain ⟨before, behind, rfl⟩ := List.append_of_mem hentry
    have hlookup : (before ++ (name, value) :: behind).reverse.lookup name = some value := by
      refine List.lookup_eq_some_iff.mpr ⟨behind.reverse, before.reverse, by simp, ?_⟩
      -- the last entry of the name would count, and no other entry has the name
      intro entry hbehind
      rw [List.map_append, List.map_cons, List.nodup_append, List.nodup_cons] at h
      refine bne_iff_ne.mpr fun hname => h.2.1.1 ?_
      exact List.mem_map.mpr ⟨entry, List.mem_reverse.mp hbehind, hname.symm⟩
    rw [Environment.ofList, hlookup]
  absent name hname := by
    have hlookup : entries.reverse.lookup name = none := by
      refine List.lookup_eq_none_iff.mpr fun entry hentry => bne_iff_ne.mpr fun h => hname ?_
      rw [h]
      exact List.mem_map_of_mem (List.mem_reverse.mp hentry)
    rw [Environment.ofList, hlookup]

end Environment.HoldsExactly

/-! ### The second validation -/

namespace Configuration

variable {env env' : Environment} {c : Configuration} {s : Setting} {name value default : String}

/-- What an environment makes a setting is its own core. -/
theorem Setting.Makes.isCore (h : s.Makes env value) :
    Text.IsCore value.toList value.toList := by
  cases h with
  | named _ _ hset =>
    obtain ⟨_, _, hcore, _⟩ := hset
    exact hcore.self
  | default _ hdefault =>
    have htrim : Text.trimBlanks value.toList = value.toList := by
      revert hdefault
      cases s <;> simp only [Setting.default?, Option.some.injEq, reduceCtorEq, false_imp_iff] <;>
        rintro rfl <;> decide +kernel
    rw [← htrim]
    exact (Text.isCore_trimBlanks _).self

theorem mem_entries_of_mem_names (c : Configuration) (h : name ∈ s.names) :
    (name, s.value c) ∈ c.entries := by
  obtain ⟨before, behind, hentries, -⟩ := List.lookup_eq_some_iff.mp (s.get?_of_mem_names c h)
  rw [hentries]
  exact List.mem_append_right _ List.mem_cons_self

/-- **The environment of its entries sets each setting of a configuration** to what it is, under all
of its names. -/
theorem setTo_of_holdsExactly (hvalid : validate env = .ok c) (h : env'.HoldsExactly c.entries)
    (hname : name ∈ s.names) : env'.SetTo name (s.value c) := by
  have hmakes := makes_of_validate hvalid s
  exact ⟨_, h.entry _ _ (mem_entries_of_mem_names c hname), hmakes.isCore, hmakes.ne_empty⟩

/-- A required value that has passed passes wherever it is set. -/
theorem required_of_required {samples : List String} (h : required env name samples = .ok value)
    (hset : env'.SetTo name value) : required env' name samples = .ok value :=
  required_eq_ok_iff.mpr ⟨setting?_eq_some_iff.mpr hset, (required_eq_ok_iff.mp h).2⟩

/-- An interval that has passed passes wherever it is set. -/
theorem positive_of_positive (h : positive env name default = .ok value)
    (hset : env'.SetTo name value) : positive env' name default = .ok value := by
  have hvalue : isPositive value = true := by
    unfold positive at h
    dsimp only at h
    split at h
    · rename_i hpositive
      rwa [← Except.ok.inj h]
    · cases h
  rw [positive, optional_of_setTo hset]
  exact if_pos hvalue

/-- **A configuration is described by the environment of its entries**, if it is by any. -/
theorem describes_of_holdsExactly (hvalid : validate env = .ok c)
    (h : env'.HoldsExactly c.entries) : Describes env' c := by
  have hset (s : Setting) {name : String} (hname : name ∈ s.names) : env'.SetTo name (s.value c) :=
    setTo_of_holdsExactly hvalid h hname
  have hoptional (s : Setting) {name default : String} (hname : name ∈ s.names) :
      s.value c = optional env' name default := (optional_of_setTo (hset s hname)).symm
  have hdescribes := validate_eq_ok_iff.mp hvalid
  exact {
    projectId := required_of_required hdescribes.projectId (hset .projectId List.mem_cons_self)
    apiKey := required_of_required hdescribes.apiKey (hset .apiKey List.mem_cons_self)
    monitoringInterval := positive_of_positive hdescribes.monitoringInterval
      (hset .monitoringInterval List.mem_cons_self)
    reportInterval := positive_of_positive hdescribes.reportInterval
      (hset .reportInterval List.mem_cons_self)
    region := by
      rw [regionOf, setting?_eq_some_iff.mpr (hset .region List.mem_cons_self)]
      rfl
    clusterName := hoptional .clusterName List.mem_cons_self
    auditLogPath := hoptional .auditLogPath List.mem_cons_self
    logLevel := hoptional .logLevel List.mem_cons_self
    repository := hoptional .repository List.mem_cons_self
    imageTag := hoptional .imageTag List.mem_cons_self }

/-- **Validation is idempotent**: of the configuration that an environment describes there is one
environment that holds exactly its entries, derived ones included, and this environment is valid and
describes the same configuration. -/
theorem reproduced_of_validate (h : validate env = .ok c) :
    (∃! env' : Environment, env'.HoldsExactly c.entries) ∧
      ∀ env' : Environment, env'.HoldsExactly c.entries → validate env' = .ok c := by
  have hnodup : (c.entries.map Prod.fst).Nodup := by
    rw [(fits_of_validate h).keys]
    decide
  refine ⟨⟨.ofList c.entries, .ofList hnodup, fun _ h' => h'.unique (.ofList hnodup)⟩, ?_⟩
  exact fun env' h' => validate_eq_ok_iff.mpr (describes_of_holdsExactly h h')

/-- An environment in which little is as it will be: values stand between blanks of several kinds, an
interval has a sign and leading zeros, the region is set under its second name behind a blank first
one, a registry is set that nobody reads, and one variable is no text. -/
def ruggedEnvironment : Environment := .ofReadings
  [(projectIdName, .text "\u2003demo-1\n"), (apiKeyName, .text "\tyour own key\u00a0"),
    (monitoringIntervalName, .text " +007"), (locationName, .text "\u3000"),
    (regionName, .text "europe-west1 "), (clusterNameName, .text " my  cluster"),
    (logLevelName, .notUnicode), (registryName, .text "registry.example.com")]

/-- The configuration that it describes. -/
def ruggedConfiguration : Configuration :=
  ⟨"demo-1", "your own key", "europe-west1", "my  cluster", "+007", "/tmp/audit_log.json", "60",
    "INFO", "consent-agents", "latest"⟩

theorem reproduced_ruggedConfiguration :
    validate ruggedEnvironment = .ok ruggedConfiguration ∧
      ∃ env' : Environment, env'.HoldsExactly ruggedConfiguration.entries ∧
        env' registryName = .text "europe-west1-docker.pkg.dev/demo-1/consent-agents" ∧
        validate env' = .ok ruggedConfiguration := by
  have hvalid : validate ruggedEnvironment = .ok ruggedConfiguration := by rfl
  obtain ⟨⟨env', hholds, -⟩, hvalidates⟩ := reproduced_of_validate hvalid
  have hregistry : (registryName, "europe-west1-docker.pkg.dev/demo-1/consent-agents") ∈
      ruggedConfiguration.entries := by decide
  exact ⟨hvalid, env', hholds, hholds.entry _ _ hregistry, hvalidates env' hholds⟩

end Configuration

end Rollout
