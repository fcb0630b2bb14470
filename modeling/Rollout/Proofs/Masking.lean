import Rollout.Proofs.RunReport
import Rollout.Stages.Actions

/-!
# What the operator is shown of the key

The failure that ends a run is masked before anyone sees it. This file says what that is worth. A
masked text does not hold the key (`Rollout.Configuration.contains_mask`), as long as the key cannot
be put together from the text that stands in its place: it holds no star and is not part of the word
between the stars. So the message of the failure, its remediation, the command and the causes do not
hold the key, whatever stage has failed and with whatever failure.

One text that the operator is shown is not masked: the *subject*, which names the resource, the
image, the manifest, the workload or the stage that the failure is about. The main statement,
`Rollout.shows_key_iff_of_run`, is that the key shows in the failure of a run exactly if the stage
that failed had it in its subject; `Rollout.cluster_shows_key` is a deployment where it does.

## Why stars help

The stars around the word are a *barrier*: what holds no star cannot reach across one. So it occurs
in a text with a star only if it occurs before or behind it
(`Rollout.Text.occursIn_append_barrier`), and replacing makes no new occurrence at the seams.
-/

namespace Rollout

/-! ### Texts -/

namespace Text

variable {x find put : List Char} {barrier : Char}

/-- What does not hold a character and begins before it ends before it. -/
theorem prefix_of_prefix_barrier (hx : barrier ∉ x) (front : List Char) {behind : List Char}
    (h : x <+: front ++ barrier :: behind) : x <+: front := by
  have hmark : front ++ [barrier] <+: front ++ barrier :: behind := ⟨behind, by simp⟩
  rcases List.prefix_or_prefix_of_prefix h hmark with h | h
  · rcases List.prefix_concat_iff.mp h with rfl | h
    · simp at hx
    · exact h
  · exact absurd (h.subset (by simp)) hx

/-- **A barrier**: what does not hold a character occurs before it or behind it. -/
theorem occursIn_append_barrier (hx : barrier ∉ x) (hne : x ≠ []) (front behind : List Char) :
    occursIn x (front ++ barrier :: behind) = (occursIn x front || occursIn x behind) := by
  induction front with
  | nil =>
    have hstart : x.isPrefixOf (barrier :: behind) = false := by
      rw [Bool.eq_false_iff, ne_eq, List.isPrefixOf_iff_prefix]
      exact fun h => hne (List.prefix_nil.mp (prefix_of_prefix_barrier hx [] h))
    simp [occursIn, hstart, hne]
  | cons c front ih =>
    have hsame : x.isPrefixOf (c :: (front ++ barrier :: behind)) = x.isPrefixOf (c :: front) := by
      rw [Bool.eq_iff_iff, List.isPrefixOf_iff_prefix, List.isPrefixOf_iff_prefix]
      refine ⟨fun h => prefix_of_prefix_barrier hx (c :: front) h, fun h => ?_⟩
      exact h.trans ⟨barrier :: behind, by simp⟩
    rw [List.cons_append, occursIn, occursIn, ih, hsame, Bool.or_assoc]

/-- What replaces an occurrence begins with the barrier, so nothing that does not hold the barrier
begins before a replacement and ends in it. -/
theorem prefix_of_prefix_replaceFrom (hx : barrier ∉ x) {cs : List Char}
    (h : x <+: replaceFrom find (barrier :: put) 0 cs) : x <+: cs := by
  induction cs generalizing x with
  | nil => exact h
  | cons c rest ih =>
    rw [replaceFrom] at h
    split at h
    · rw [List.prefix_nil.mp (prefix_of_prefix_barrier hx [] h)]
      exact List.nil_prefix
    · rcases x with _ | ⟨d, x⟩
      · exact List.nil_prefix
      · obtain ⟨rfl, htail⟩ := List.cons_prefix_cons.mp h
        exact List.cons_prefix_cons.mpr ⟨rfl, ih (fun hd => hx (List.mem_cons_of_mem _ hd)) htail⟩

/-- **Replacing leaves no occurrence**, if what is put in stands between two barriers and does not
hold what is looked for. -/
theorem occursIn_replaceFrom (hfind : barrier ∉ find) (hne : find ≠ [])
    (hput : occursIn find put = false) (skip : Nat) (cs : List Char) :
    occursIn find (replaceFrom find (barrier :: put ++ [barrier]) skip cs) = false := by
  have hnil : occursIn find [] = false := by simpa [occursIn] using hne
  induction cs generalizing skip with
  | nil => cases skip <;> exact hnil
  | cons c rest ih =>
    rcases skip with _ | skip
    · rw [replaceFrom]
      split
      · have hsplit (behind : List Char) : barrier :: put ++ [barrier] ++ behind =
            [] ++ barrier :: (put ++ barrier :: behind) := by simp
        rw [hsplit, occursIn_append_barrier hfind hne, occursIn_append_barrier hfind hne, hnil,
          hput, ih]
        rfl
      · rename_i hc
        -- an occurrence that began here would have been replaced
        have hstart : find.isPrefixOf
            (c :: replaceFrom find (barrier :: put ++ [barrier]) 0 rest) = false := by
          rw [Bool.eq_false_iff, ne_eq, List.isPrefixOf_iff_prefix]
          intro h
          have hkept : replaceFrom find (barrier :: (put ++ [barrier])) 0 (c :: rest) =
              c :: replaceFrom find (barrier :: put ++ [barrier]) 0 rest := by
            rw [replaceFrom, if_neg hc]
            rfl
          rw [← hkept] at h
          exact hc (List.isPrefixOf_iff_prefix.mpr (prefix_of_prefix_replaceFrom hfind h))
        rw [occursIn, hstart, ih]
        rfl
    · exact ih skip

end Text

/-! ### The mask of a configuration -/

namespace Configuration

/-- **A key that can be masked**: what stands in its place cannot spell it. -/
structure Maskable (c : Configuration) : Prop where
  noStar : '*' ∉ c.apiKey.toList
  notInWord : Text.contains "MASKED" c.apiKey = false

/-- **A masked text does not hold the key.** -/
theorem contains_mask {c : Configuration} (h : c.Maskable) (text : String) :
    Text.contains (c.mask text) c.apiKey = false := by
  obtain ⟨hstar, hword⟩ := h
  have hne : c.apiKey.toList ≠ [] := by
    intro hnil
    rw [Text.contains, hnil, Text.occursIn_nil] at hword
    cases hword
  have hnil : Text.occursIn c.apiKey.toList [] = false := by simpa [Text.occursIn] using hne
  -- between the outermost stars there are more stars, and the word
  have hinner : Text.occursIn c.apiKey.toList "**MASKED**".toList = false := by
    have hsplit : "**MASKED**".toList =
        [] ++ '*' :: ([] ++ '*' :: ("MASKED".toList ++ '*' :: ([] ++ '*' :: []))) := by decide
    rw [hsplit, Text.occursIn_append_barrier hstar hne, Text.occursIn_append_barrier hstar hne,
      Text.occursIn_append_barrier hstar hne, Text.occursIn_append_barrier hstar hne, hnil]
    simpa [Text.contains] using hword
  have hmask : maskText.toList = '*' :: "**MASKED**".toList ++ ['*'] := by decide
  rw [mask, Text.replace, Text.contains, String.toList_ofList, Text.replaceChars,
    if_neg (by simpa using hne), hmask]
  exact Text.occursIn_replaceFrom hstar hne hinner 0 text.toList

end Configuration

/-! ### The texts of a failure -/

namespace Matter

/-- The command that failed. -/
def command? : Matter → Option String
  | execution command .. => command
  | _ => none

/-- What the failure is about, as the operator is told of it: a resource, an image, a manifest, a
workload or a stage. -/
def subject? : Matter → Option String
  | provisioning subject .. | build subject _ | apply subject _ | readiness subject _
  | pipeline subject _ => subject
  | _ => none

/-- Masking leaves the subject as it is. -/
theorem subject?_masked (mask : String → String) (m : Matter) :
    (m.masked mask).subject? = m.subject? := by
  cases m <;> rfl

theorem remediation?_masked (mask : String → String) (m : Matter) :
    (m.masked mask).remediation? = m.remediation?.map mask := by
  cases m <;> rfl

theorem command?_masked (mask : String → String) (m : Matter) :
    (m.masked mask).command? = m.command?.map mask := by
  cases m <;> rfl

theorem causes_masked (mask : String → String) (m : Matter) :
    (m.masked mask).causes = maskCauses mask m.causes := by
  cases m <;> rfl

theorem mem_maskCauses {mask : String → String} {causes : List String} {text : String}
    (h : text ∈ maskCauses mask causes) : ∃ t, text = mask t := by
  cases causes with
  | nil => cases h
  | cons cause causes => exact ⟨_, List.mem_singleton.mp h⟩

end Matter

namespace Failure

/-- The free texts of a failure that the operator may be shown. -/
def freeTexts (f : Failure) : List String :=
  f.message :: (f.remediation?.toList ++ f.matter.command?.toList ++ f.matter.causes)

/-- **All texts of a failure that the operator may be shown.** -/
def shownTexts (f : Failure) : List String := f.freeTexts ++ f.matter.subject?.toList

/-- A text shows in a failure. -/
def Shows (f : Failure) (secret : String) : Prop :=
  ∃ text ∈ f.shownTexts, Text.contains text secret = true

/-- **Every free text of a masked failure has passed the mask**, whatever the kind of the
failure. -/
theorem mem_freeTexts_masked {mask : String → String} {f : Failure} {text : String}
    (h : text ∈ (f.masked mask).freeTexts) : ∃ t, text = mask t := by
  have hoption {o : Option String} (h : text ∈ (o.map mask).toList) : ∃ t, text = mask t := by
    obtain ⟨t, -, ht⟩ := Option.map_eq_some_iff.mp (Option.mem_toList.mp h)
    exact ⟨t, ht.symm⟩
  rw [freeTexts, remediation?, masked, Matter.remediation?_masked, Matter.command?_masked,
    Matter.causes_masked] at h
  rcases List.mem_cons.mp h with rfl | h
  · exact ⟨f.message, rfl⟩
  · rcases List.mem_append.mp h with h | hcauses
    · exact (List.mem_append.mp h).elim hoption hoption
    · exact Matter.mem_maskCauses hcauses

/-- The subject of a failure stands in the message that the operator is told. -/
theorem contains_userMessage {f : Failure} {subject text : String}
    (hsubject : f.matter.subject? = some subject) (h : Text.contains subject text = true) :
    Text.contains f.userMessage text = true := by
  have hframe : ∃ front behind, f.userMessage = front ++ subject ++ behind := by
    obtain ⟨code, message, matter⟩ := f
    cases matter <;> cases hsubject <;> exact ⟨_, _, String.append_assoc ..⟩
  obtain ⟨front, behind, hmessage⟩ := hframe
  obtain ⟨before, after, hoccurs⟩ := (Text.occursIn_iff ..).mp h
  refine (Text.occursIn_iff ..).mpr ⟨front.toList ++ before, after ++ behind.toList, ?_⟩
  rw [hmessage, String.toList_append, String.toList_append, hoccurs]
  simp

theorem shows_of_subject {f : Failure} {subject secret : String}
    (hsubject : f.matter.subject? = some subject) (h : Text.contains subject secret = true) :
    f.Shows secret :=
  ⟨subject, List.mem_append_right _ (Option.mem_toList.mpr hsubject), h⟩

variable {c : Configuration}

theorem contains_freeText_masked (h : c.Maskable) {f : Failure} {text : String}
    (htext : text ∈ (f.masked c.mask).freeTexts) : Text.contains text c.apiKey = false := by
  obtain ⟨t, rfl⟩ := mem_freeTexts_masked htext
  exact Configuration.contains_mask h t

/-- A masked failure shows the key exactly in its subject. -/
theorem shows_masked_iff (h : c.Maskable) (f : Failure) :
    (f.masked c.mask).Shows c.apiKey ↔
      ∃ subject, f.matter.subject? = some subject ∧ Text.contains subject c.apiKey = true := by
  have hsubject : (f.masked c.mask).matter.subject? = f.matter.subject? :=
    Matter.subject?_masked c.mask f.matter
  constructor
  · rintro ⟨text, htext, hshows⟩
    rcases List.mem_append.mp htext with hfree | hmem
    · rw [contains_freeText_masked h hfree] at hshows
      cases hshows
    · rw [hsubject] at hmem
      exact ⟨text, Option.mem_toList.mp hmem, hshows⟩
  · rintro ⟨subject, hsome, hshows⟩
    exact shows_of_subject (hsubject.trans hsome) hshows

end Failure

/-! ### The failure of a run -/

section Run

variable (p : Pipeline) (plan : Plan) (runner : Runner) (past : List Event)

/-- **The key shows in the failure of a run exactly in its subject.** The configuration is the one
that the run has made by the time the last stage that it comes to fails; the plan, the work of its
stages, and what answers the commands are arbitrary. -/
theorem shows_key_iff_of_run (r : Report) {f : Failure}
    (hf : ((p.run plan r).result runner past).2 = .error f) :
    ∃ v f', (p.visits plan runner past).getLast? = some v ∧
      (v.work p runner).outcome = .error f' ∧
      ∀ c, v.configuration p runner = some c → c.Maskable →
        (∀ text ∈ f.freeTexts, Text.contains text c.apiKey = false) ∧
          (f.Shows c.apiKey ↔ ∃ subject, f'.matter.subject? = some subject ∧
            Text.contains subject c.apiKey = true) := by
  rw [Pipeline.outcome_run, Pipeline.outcomeOf_eq_error_iff] at hf
  obtain ⟨v, f', hlast, houtcome, rfl⟩ := masked_of_failureOf p plan runner past hf
  refine ⟨v, f', hlast, houtcome, fun c hc hmaskable => ?_⟩
  rw [hc]
  exact ⟨fun _ => Failure.contains_freeText_masked hmaskable, Failure.shows_masked_iff hmaskable f'⟩

end Run

/-! ### A cluster that is named like the key -/

/-- The environment of a deployment whose cluster has the name of the key. -/
def sharedName : Environment :=
  .ofList [(Configuration.projectIdName, "demo"), (Configuration.apiKeyName, "s3cr3t"),
    (Configuration.clusterNameName, "s3cr3t")]

/-- Its configuration. -/
def sharedConfiguration : Configuration :=
  ⟨"demo", "s3cr3t", "us-central1", "s3cr3t", "30", "/tmp/audit_log.json", "60", "INFO",
    "consent-agents", "latest"⟩

theorem maskable_sharedConfiguration : sharedConfiguration.Maskable where
  noStar := by decide
  notInWord := by decide

/-- A host where every command succeeds but the query of the cluster. -/
def noClusters : Runner := fun _ c =>
  if c.args.contains "describe" then .ok ⟨.error 1, "", "PERMISSION_DENIED", .zero⟩
  else .ok ⟨.success, "operator", "", .zero⟩

/-- The pipeline of that deployment. -/
def sharedPipeline : Pipeline := Stages.pipeline ⟨[], []⟩ .builtIn sharedName

/-- The plan that provides the cluster. -/
def clusterPlan : Plan := .ofGoal .cluster (catalog .builtIn)

/-- How a run of that plan ends. -/
def sharedResult : Except Failure Unit :=
  ((sharedPipeline.run clusterPlan (.begin "cluster" (.afterEpoch .zero))).result noClusters []).2

/-- The query of the cluster fails, and the failure is about the cluster. -/
theorem sharedResult_eq_error : ∃ f, sharedResult = .error f ∧ f.matter.subject? = some "s3cr3t" := by
  have hsubject : (match sharedResult with
      | .ok _ => none
      | .error f => f.matter.subject?) = some "s3cr3t" := by decide +kernel
  split at hsubject
  · cases hsubject
  · rename_i f hf
    exact ⟨f, hf, hsubject⟩

/-- By then the run has its configuration. -/
theorem configuration_last_clusterPlan :
    ((sharedPipeline.visits clusterPlan noClusters []).getLast?.bind
      fun v => v.configuration sharedPipeline noClusters) = some sharedConfiguration := by
  decide +kernel

/-- The failure of that run does not hold the key in its free texts, and yet it shows the key. -/
theorem shows_key_sharedResult :
    ∃ f, sharedResult = .error f ∧
      (∀ text ∈ f.freeTexts, Text.contains text sharedConfiguration.apiKey = false) ∧
      f.Shows sharedConfiguration.apiKey := by
  obtain ⟨f, hf, hsubject⟩ := sharedResult_eq_error
  obtain ⟨v, f', hlast, -, hkey⟩ := shows_key_iff_of_run sharedPipeline clusterPlan noClusters []
    (.begin "cluster" (.afterEpoch .zero)) hf
  have hconfiguration := configuration_last_clusterPlan
  rw [hlast] at hconfiguration
  obtain ⟨hfree, -⟩ := hkey sharedConfiguration hconfiguration maskable_sharedConfiguration
  exact ⟨f, hf, hfree, Failure.shows_of_subject hsubject (by decide)⟩

/-- **The operator is shown the key**, which is the name of the cluster that could not be queried. -/
theorem cluster_shows_key :
    Configuration.validate sharedName = .ok sharedConfiguration ∧
      sharedConfiguration.Maskable ∧
      ∃ f, sharedResult = .error f ∧ f.Shows sharedConfiguration.apiKey ∧
        Text.contains f.userMessage sharedConfiguration.apiKey = true := by
  obtain ⟨f, hf, hsubject⟩ := sharedResult_eq_error
  exact ⟨rfl, maskable_sharedConfiguration, f, hf, Failure.shows_of_subject hsubject (by decide),
    Failure.contains_userMessage hsubject (by decide)⟩

end Rollout
