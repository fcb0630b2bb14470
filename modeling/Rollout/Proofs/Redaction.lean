import Rollout.Proofs.Masking
import Rollout.Proofs.Provided

/-!
# What a report keeps of a failure

The mask of a configuration is sound (`Rollout.Configuration.MaskSound`): it takes the key out of
every text, leaves a text without the key alone, and finds nothing left to do in what it has masked
before. So a failure that passes it is still the same failure (`Rollout.Failure.KeptAs`), and the
report that is made of it has the key in none of the texts that it keeps
(`Rollout.Report.Withholds`).

This is so from the moment at which the run has a configuration. In the pipeline of the catalog that
is when the stage that makes it is completed: what the run knows from then on is the configuration
of its environment (`Rollout.configuration_of_completed`), whatever the plan. The main statement is
`Rollout.withheld_run`.
-/

namespace Rollout

/-! ### The mask -/

namespace Configuration

variable {c : Configuration}

/-- **A sound mask.** -/
structure MaskSound (c : Configuration) : Prop where
  hidden : ∀ text, Text.contains (c.mask text) c.apiKey = false
  untouched : ∀ text, Text.contains text c.apiKey = false → c.mask text = text
  idempotent : ∀ text, c.mask (c.mask text) = c.mask text

/-- What does not hold the key is not changed by the mask. -/
theorem mask_eq_self {text : String} (h : Text.contains text c.apiKey = false) :
    c.mask text = text := by
  have hne : c.apiKey.toList ≠ [] := by
    intro hnil
    rw [Text.contains, hnil, Text.occursIn_nil] at h
    cases h
  rw [mask, Text.replace, Text.replaceChars, if_neg (by simpa using hne),
    Text.replaceFrom_eq_self _ h, String.ofList_toList]

/-- **The mask of a key that can be masked is sound.** -/
theorem maskSound (h : c.Maskable) : c.MaskSound where
  hidden := contains_mask h
  untouched _ := mask_eq_self
  idempotent text := mask_eq_self (contains_mask h text)

end Configuration

/-! ### Failures -/

namespace Matter

/-- Masking keeps the kind of failure. -/
theorem ctorIdx_masked (mask : String → String) (m : Matter) :
    (m.masked mask).ctorIdx = m.ctorIdx := by
  cases m <;> rfl

theorem title_masked (mask : String → String) (m : Matter) : (m.masked mask).title = m.title := by
  cases m <;> rfl

end Matter

namespace Failure

/-- What the text of a failure begins with: its code and its kind. -/
def heading (f : Failure) : String :=
  "[E" ++ Duration.padded 4 f.code.toNat ++ "] " ++ f.matter.title ++ " error: "

theorem text_eq (f : Failure) : f.text = f.heading ++ f.message := rfl

theorem heading_masked (mask : String → String) (f : Failure) :
    (f.masked mask).heading = f.heading := by
  rw [heading, code_masked, heading]
  exact congrArg (_ ++ · ++ _) (Matter.title_masked mask f.matter)

/-- **A failure is kept as another one**: the kind of failure, its code and the exit status stay, and
there is one cause at most. -/
structure KeptAs (f kept : Failure) : Prop where
  kind : kept.matter.ctorIdx = f.matter.ctorIdx
  code : kept.code = f.code
  exit : kept.exitStatus = f.exitStatus
  causes : kept.matter.causes.length ≤ 1

theorem keptAs_masked (mask : String → String) (f : Failure) : f.KeptAs (f.masked mask) where
  kind := Matter.ctorIdx_masked mask f.matter
  code := code_masked mask f
  exit := exitStatus_masked mask f
  causes := Matter.length_causes_masked mask f.matter

/-- The remediation of a masked failure does not hold the key. -/
theorem contains_remediation_masked {c : Configuration} (h : c.Maskable) {f : Failure}
    {text : String} (htext : (f.masked c.mask).remediation? = some text) :
    Text.contains text c.apiKey = false := by
  refine contains_freeText_masked (f := f) h (List.mem_cons_of_mem _ ?_)
  exact List.mem_append_left _ (List.mem_append_left _ (Option.mem_toList.mpr htext))

end Failure

/-! ### Reports -/

/-- **A report withholds a secret**: of the failure, whose text has this heading, it keeps a message
and a remediation without the secret. -/
structure Report.Withholds (r : Report) (heading secret : String) : Prop where
  /-- A stage is recorded to have failed. -/
  failed : ∃ record ∈ r.stages, record.status = .failed
  error : ∃ message e, Text.contains message secret = false ∧
    (∀ record ∈ r.stages, record.status = .failed → record.error = some (heading ++ message)) ∧
    r.error = some e ∧ e.message = heading ++ message ∧
    ∀ text, e.remediation = some text → Text.contains text secret = false

section Runs

variable (p : Pipeline) (plan : Plan) (runner : Runner) (past : List Event) (command : String)
  (began : Timestamp) {c : Configuration}

/-- **A run withholds the key of a configuration**, if it fails where something is known: the failure
is kept as the same failure, and the report has the key in none of its texts. -/
def Withheld (c : Configuration) (known : Visit → Prop) : Prop :=
  ∀ f, ((p.run plan (.begin command began)).result runner past).2 = .error f →
    ∃ v f', (p.visits plan runner past).getLast? = some v ∧ (v.work p runner).outcome = .error f' ∧
      (known v → f'.KeptAs f ∧
        ((p.run plan (.begin command began)).result runner past).1.Withholds f'.heading c.apiKey)

theorem withheld_of_configuration (h : c.Maskable) :
    Withheld p plan runner past command began c fun v => v.configuration p runner = some c := by
  intro f hf
  obtain ⟨-, htells⟩ := report_of_run p plan runner past command began
  generalize (p.run plan (.begin command began)).result runner past = result at hf htells ⊢
  obtain ⟨r, _⟩ := result
  obtain rfl := hf
  obtain ⟨v, f', hlast, houtcome, hmasked⟩ := htells.masked f rfl
  refine ⟨v, f', hlast, houtcome, fun hc => ?_⟩
  rw [hc] at hmasked
  have hkept : f'.masked c.mask = f := hmasked
  obtain ⟨⟨e, herror, htellsOf⟩, hrecords⟩ := htells.failure f rfl
  have htext : f.text = f'.heading ++ f.message := by
    rw [Failure.text_eq, ← hkept, Failure.heading_masked]
  have hmessage : Text.contains f.message c.apiKey = false := by
    rw [← hkept]
    exact Configuration.contains_mask h f'.message
  have hfailed : ∃ record ∈ r.stages, record.status = .failed := by
    refine Classical.byContradiction fun hnone => ?_
    have hok := htells.failed_iff.mp fun record hrecord hstatus =>
      hnone ⟨record, hrecord, hstatus⟩
    cases hok
  refine ⟨hkept ▸ Failure.keptAs_masked c.mask f', hfailed, f.message, e, hmessage, ?_, herror,
    htellsOf.message.trans htext, ?_⟩
  · intro record hrecord hstatus
    rw [hrecords record hrecord hstatus, htext]
  · intro text hremediation
    refine Failure.contains_remediation_masked h (f := f') ?_
    rw [hkept, ← htellsOf.remediation]
    exact hremediation

end Runs

/-! ### When a run has its configuration -/

section Catalog

open Stages Pipeline

variable {files : Files} {settings : Settings} {env : Environment} {runner : Runner}
  {past : List Event} {plan : Plan} {v : Visit} {c : Configuration}

/-- A context that knows no configuration but that of an environment. -/
def Context.KnowsOnly (env : Environment) (ctx : Context) : Prop :=
  ∀ c, ctx.configuration = some c → Configuration.validate env = .ok c

/-- A stage makes no configuration but that of the environment. -/
theorem knowsOnly_leaves (h : v.ctx.KnowsOnly env) :
    (v.leaves (pipeline files settings env) runner).KnowsOnly env := by
  intro c hc
  change (v.work (pipeline files settings env) runner).ctx.configuration = some c at hc
  rcases ctx_work_cases with hctx | ⟨c', hc', hctx⟩
  · exact h c (by rwa [hctx] at hc)
  · rw [hctx] at hc
    obtain rfl := Option.some.inj hc
    exact hc'

/-- **Where the stage that makes the configuration is completed, a run has the configuration of its
environment.** -/
theorem configuration_of_completed (hvalid : Configuration.validate env = .ok c)
    (hv : v ∈ (pipeline files settings env).visits plan runner past)
    (hcompleted : .validate ∈ v.ctx.completed) :
    v.configuration (pipeline files settings env) runner = some c := by
  have hsound : v.ctx.Sound := ctx_of_mem_visitsFrom (fun _ => sound_leaves) Context.sound_empty hv
  have hempty : Context.empty.KnowsOnly env := fun _ h => by cases h
  have honly : v.ctx.KnowsOnly env :=
    ctx_of_mem_visitsFrom (fun _ h _ => knowsOnly_leaves h) hempty hv
  obtain ⟨c', hc'⟩ := hsound hcompleted
  have hsome : ∃ c'', v.configuration (pipeline files settings env) runner = some c'' := by
    rcases ctx_work_cases with hctx | ⟨c'', -, hctx⟩
    · exact ⟨c', by rw [Visit.configuration, hctx, hc']⟩
    · exact ⟨c'', by rw [Visit.configuration, hctx]⟩
  obtain ⟨c'', hc''⟩ := hsome
  -- what the stage leaves to those behind it is what it knows
  have hsame : Except.ok c'' = .ok c := (knowsOnly_leaves honly c'' hc'').symm.trans hvalid
  rw [hc'', Except.ok.inj hsame]

end Catalog

/-- **What a report keeps of a failure does not hold the key.** Of a key that can be masked the mask
is sound; so every run withholds it, whatever the plan, the work of its stages and the answers to
commands, if it fails where it has the configuration; and the pipeline of the catalog does so, if it
fails behind the stage that makes it. -/
theorem withheld_run {c : Configuration} (h : c.Maskable) :
    c.MaskSound ∧
    (∀ p plan runner past command began,
      Withheld p plan runner past command began c fun v => v.configuration p runner = some c) ∧
    ∀ files settings env, Configuration.validate env = .ok c →
      ∀ plan runner past command began,
        Withheld (Stages.pipeline files settings env) plan runner past command began c
          fun v => .validate ∈ v.ctx.completed := by
  refine ⟨Configuration.maskSound h, fun p plan runner past command began =>
    withheld_of_configuration p plan runner past command began h, ?_⟩
  intro files settings env hvalid plan runner past command began f hf
  obtain ⟨v, f', hlast, houtcome, hkept⟩ :=
    withheld_of_configuration _ plan runner past command began h f hf
  have hv := List.mem_of_getLast? hlast
  exact ⟨v, f', hlast, houtcome, fun hcompleted =>
    hkept (configuration_of_completed hvalid hv hcompleted)⟩

/-- A deployment whose cluster cannot be queried: its failure is that of the cluster's stage, and the
report of it withholds the key. -/
theorem withheld_sharedConfiguration :
    sharedConfiguration.Maskable ∧ sharedConfiguration.MaskSound ∧
      ∃ (f : Failure) (v : Visit) (f' : Failure), sharedResult = .error f ∧
        (v.work sharedPipeline noClusters).outcome = .error f' ∧ f'.KeptAs f ∧
          ((sharedPipeline.run clusterPlan (.begin "cluster" (.afterEpoch .zero))).result noClusters
            []).1.Withholds f'.heading sharedConfiguration.apiKey := by
  obtain ⟨hsound, -, hcatalog⟩ := withheld_run maskable_sharedConfiguration
  obtain ⟨f, hf, -⟩ := sharedResult_eq_error
  have hwithheld : Withheld sharedPipeline clusterPlan noClusters [] "cluster" (.afterEpoch .zero)
      sharedConfiguration fun v => .validate ∈ v.ctx.completed :=
    hcatalog ⟨[], []⟩ .builtIn sharedName rfl clusterPlan noClusters [] "cluster" (.afterEpoch .zero)
  obtain ⟨v, f', hlast, houtcome, hkept⟩ := hwithheld f hf
  have hcompleted : ((sharedPipeline.visits clusterPlan noClusters []).getLast?.map
      fun v => v.ctx.completed.contains .validate) = some true := by decide +kernel
  rw [hlast] at hcompleted
  obtain ⟨hkept, hwithholds⟩ := hkept (List.mem_of_elem_eq_true (Option.some.inj hcompleted))
  exact ⟨maskable_sharedConfiguration, hsound, f, v, f', hf, houtcome, hkept, hwithholds⟩

end Rollout
