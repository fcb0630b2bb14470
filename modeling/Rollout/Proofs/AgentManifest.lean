import Rollout.Proofs.Answered
import Rollout.Proofs.Creation
import Rollout.Proofs.Invocations
import Rollout.Proofs.Rendering
import Rollout.Stages.Manifests

/-!
# The manifest of the agents

The agents are deployed by two commands, one for their namespace and one for their manifest. Neither
is run before the manifest is known to be good. What this means is said without the functions that
see to it: a manifest is *drafted* where its template can be read, where substitution leads to a
text, and where this text is a stream of documents (`Rollout.Stages.Manifests.Drafted`). A template
that drafts none is *spoilt*, for a reason that is the first there is
(`Rollout.Stages.Manifests.Spoilt`).

| course | commands | failure |
|---|---|---|
| the template is spoilt | none | 6002, 6001 or 7001 |
| there is no namespace | the first | 7003 |
| the cluster does not take the manifest | both | 7002 |
| the manifest is applied | both | |

There are no other courses (`Rollout.Stages.Manifests.course_deployAgents`). Which of them a
deployment takes is decided by the template, the first answer and the second answer, in this order,
and the answers are those of the runner. Everything else in the main statement,
`Rollout.Stages.Manifests.guarded_deployAgents`, is read off.
-/

namespace Rollout.Stages.Manifests

open Attempt Tools

variable {files : Files} {c : Configuration} {s : AgentSettings} {policy : Policy}
  {path document title : String} {code : UInt16} {calls : List Call}
  {result : Except Failure Outcome}

/-! ### Manifests from templates -/

/-- **A manifest** is a stream of Yaml documents, at least one of which is not empty. -/
def IsManifest (document : String) : Prop :=
  ∃ values, Yaml.documents? document = some values ∧ ∃ v ∈ values, v.isNull = false

/-- The text that the template at a path becomes with the values of a configuration. -/
def Rendered (files : Files) (c : Configuration) (path document : String) : Prop :=
  ∃ source, files.read? path = some source ∧
    Template.Substituted c.entries source.toList document.toList

/-- **The manifest that a template drafts.** -/
def Drafted (files : Files) (c : Configuration) (path document : String) : Prop :=
  Rendered files c path document ∧ IsManifest document

/-- **A template that drafts no manifest**, with the code and the kind of the failure. -/
inductive Spoilt (files : Files) (c : Configuration) (path : String) : UInt16 → String → Prop
  /-- It cannot be read. -/
  | unreadable (hread : files.read? path = none) : Spoilt files c path 6002 "Templating"
  /-- It can be read, but a name that occurs has no value. -/
  | unresolved {source name : String} (hread : files.read? path = some source)
      (hoccurs : Template.Occurs source.toList name) (hvalue : c.entries.lookup name = none) :
      Spoilt files c path 6001 "Templating"
  /-- It becomes a text, but this is no manifest. -/
  | malformed {document : String} (hrendered : Rendered files c path document)
      (hno : ¬IsManifest document) : Spoilt files c path 7001 "Apply"

theorem Rendered.unique (h : Rendered files c path document) {other : String}
    (h' : Rendered files c path other) : document = other := by
  obtain ⟨source, hread, hsubst⟩ := h
  obtain ⟨source', hread', hsubst'⟩ := h'
  obtain rfl := Option.some.inj (hread.symm.trans hread')
  exact String.toList_inj.mp (hsubst.unique hsubst')

/-- What becomes a text is spoilt only if the text is no manifest. -/
theorem Rendered.malformed_of_spoilt (h : Rendered files c path document)
    (hspoilt : Spoilt files c path code title) :
    code = 7001 ∧ title = "Apply" ∧ ¬IsManifest document := by
  cases hspoilt with
  | unreadable hread' =>
    obtain ⟨source, hread, -⟩ := h
    rw [hread] at hread'
    cases hread'
  | unresolved hread' hoccurs hnone =>
    obtain ⟨source, hread, hsubst⟩ := h
    obtain rfl := Option.some.inj (hread.symm.trans hread')
    obtain ⟨value, hvalue⟩ := hsubst.exists_value hoccurs
    rw [hvalue] at hnone
    cases hnone
  | malformed hrendered hno => exact ⟨rfl, rfl, h.unique hrendered ▸ hno⟩

/-- A template that drafts a manifest is not spoilt. -/
theorem Drafted.not_spoilt (h : Drafted files c path document) : ¬Spoilt files c path code title :=
  fun hspoilt => (h.1.malformed_of_spoilt hspoilt).2.2 h.2

/-- A template is spoilt for one reason. -/
theorem Spoilt.unique (h : Spoilt files c path code title) {code' : UInt16} {title' : String}
    (h' : Spoilt files c path code' title') : code = code' ∧ title = title' := by
  -- what becomes a text leaves one reason; the other two part at the reading
  cases h' with
  | malformed hrendered _ =>
    obtain ⟨rfl, rfl, -⟩ := hrendered.malformed_of_spoilt h
    exact ⟨rfl, rfl⟩
  | unreadable hread =>
    cases h with
    | unreadable _ => exact ⟨rfl, rfl⟩
    | unresolved hread' _ _ =>
      rw [hread] at hread'
      cases hread'
    | malformed hrendered _ =>
      exact absurd (hrendered.malformed_of_spoilt (.unreadable hread)).1 (by decide)
  | unresolved hread hoccurs hnone =>
    cases h with
    | unreadable hread' =>
      rw [hread] at hread'
      cases hread'
    | unresolved _ _ _ => exact ⟨rfl, rfl⟩
    | malformed hrendered _ =>
      exact absurd (hrendered.malformed_of_spoilt (.unresolved hread hoccurs hnone)).1 (by decide)

/-- A text is taken for a manifest if it is one. -/
theorem documents_spec (name document : String) :
    match Manifest.documents name document with
    | .ok _ => IsManifest document
    | .error f => ¬IsManifest document ∧ f.code = 7001 ∧ f.matter.title = "Apply" := by
  rw [Manifest.documents]
  cases hvalues : Yaml.documents? document with
  | none =>
    refine ⟨?_, rfl, rfl⟩
    rintro ⟨values, hsome, -⟩
    rw [hvalues] at hsome
    cases hsome
  | some values =>
    dsimp only
    cases hlength : (values.filter fun v => !v.isNull).length with
    | zero =>
      refine ⟨?_, rfl, rfl⟩
      rintro ⟨values', hsome, v, hv, hnull⟩
      obtain rfl := Option.some.inj (hvalues.symm.trans hsome)
      have hempty := List.filter_eq_nil_iff.mp (List.eq_nil_of_length_eq_zero hlength) v hv
      rw [hnull] at hempty
      exact hempty rfl
    | succ n =>
      have hpos : 0 < (values.filter fun v => !v.isNull).length := by omega
      obtain ⟨v, hmem⟩ := List.exists_mem_of_length_pos hpos
      obtain ⟨hv, hnull⟩ := List.mem_filter.mp hmem
      exact ⟨values, hvalues, v, hv, by simpa using hnull⟩

theorem renderAgents_of_read {source : String} (hread : files.read? path = some source) :
    renderAgents files c path = (Template.parse path source).render c.entries >>= fun document =>
      (Manifest.documents path document).map fun _ => (path, document) := by
  rw [renderAgents, Template.ofFile, hread]
  rfl

/-- **A template drafts a manifest or is spoilt**, and the failure says how. -/
theorem renderAgents_spec (files : Files) (c : Configuration) (path : String) :
    match renderAgents files c path with
    | .ok (_, document) => Drafted files c path document
    | .error f => Spoilt files c path f.code f.matter.title := by
  cases hread : files.read? path with
  | none =>
    rw [renderAgents, Template.ofFile, hread]
    exact .unreadable hread
  | some source =>
    rw [renderAgents_of_read hread]
    cases hrender : (Template.parse path source).render c.entries with
    | error f =>
      obtain ⟨hmissing, rfl⟩ := Template.render_eq_error_iff.mp hrender
      obtain ⟨name, hname⟩ := List.exists_mem_of_ne_nil _ hmissing
      obtain ⟨hoccurs, hvalue⟩ := Template.mem_missing.mp hname
      exact .unresolved hread hoccurs hvalue
    | ok document =>
      have hrendered : Rendered files c path document :=
        ⟨source, hread, Template.render_eq_ok_iff_substituted.mp hrender⟩
      have hspec := documents_spec path document
      simp only [bind, Except.bind]
      cases hdocuments : Manifest.documents path document with
      | ok n =>
        rw [hdocuments] at hspec
        exact ⟨hrendered, hspec⟩
      | error f =>
        rw [hdocuments] at hspec
        obtain ⟨hno, hcode, htitle⟩ := hspec
        change Spoilt files c path f.code f.matter.title
        rw [hcode, htitle]
        exact .malformed hrendered hno

/-! ### Commands -/

/-- The command that creates the namespace. -/
def namespaceCommand (space : String) : Command := kubectl ["create", "namespace", space]

/-- The command that applies a manifest, which it reads. -/
def manifestCommand (document : String) : Command :=
  { kubectl ["apply", "-f", "-"] with stdin := some document }

theorem manifestCommand_ne (document space : String) :
    manifestCommand document ≠ namespaceCommand space :=
  fun h => absurd (List.cons.inj (congrArg Command.args h)).1 (by decide)

/-! ### Namespaces -/

/-- **The namespace is there**, as the answer to its creation says: it was created, or the policy
absorbed that it had been there before. -/
inductive Settled (policy : Policy) : Answer → Prop
  | created {o : Output} (h : o.status = .success) : Settled policy (.ok o)
  | absorbed {o : Output} {n : Int32} (hpolicy : policy = .treatDuplicateAsSuccess)
      (h : o.status = .error n) (hdup : Policy.Spelled o.stderr) :
      Settled policy (.ok o)

theorem settled_iff_takesFor {answer : Answer} :
    Settled policy answer ↔ ∃ creation, policy.TakesFor answer creation := by
  constructor
  · rintro (h | ⟨hpolicy, h, hdup⟩)
    · exact ⟨_, .created h⟩
    · exact ⟨_, .absorbed hpolicy h hdup⟩
  · rintro ⟨creation, h | ⟨hpolicy, h, hdup⟩⟩
    · exact .created h
    · exact .absorbed hpolicy h hdup

/-- Something is created or absorbed by one command. -/
theorem ensures_settled (command : Command) (policy : Policy) (label : String) :
    (Provisioning.created policy label (run command)).Ensures
      (fun _ calls => ∃ answer, calls = [(command, answer)] ∧ Settled policy answer)
      fun _ calls => ∃ answer, calls = [(command, answer)] ∧ ¬Settled policy answer := by
  refine (Provisioning.ensures_created command policy label).mono ?_ ?_
  · rintro creation calls ⟨answer, hcalls, htakes⟩
    exact ⟨answer, hcalls, settled_iff_takesFor.mpr ⟨creation, htakes⟩⟩
  · rintro e calls ⟨answer, hcalls, hno⟩
    refine ⟨answer, hcalls, fun hsettled => ?_⟩
    obtain ⟨creation, htakes⟩ := settled_iff_takesFor.mp hsettled
    exact hno creation htakes

theorem ensures_ensureNamespace (space : String) (policy : Policy) (o : Outcome) :
    (ensureNamespace space policy o).Ensures
      (fun _ calls => ∃ answer, calls = [(namespaceCommand space, answer)] ∧
        Settled policy answer)
      fun f calls => f.code = 7003 ∧ f.matter.title = "Apply" ∧
        ∃ answer, calls = [(namespaceCommand space, answer)] ∧
          ¬Settled policy answer := by
  refine ((ensures_settled _ policy _).mapFailure _).bind ?_ ?_
  · rintro creation before hbefore
    cases creation with
    | created =>
      refine .after_display ((ensures_pure o).mono ?_ nofun)
      rintro _ after ⟨-, rfl⟩
      rwa [List.append_nil]
    | alreadyExisted =>
      refine .after_display ((ensures_pure _).mono ?_ nofun)
      rintro _ after ⟨-, rfl⟩
      rwa [List.append_nil]
  · rintro f calls ⟨cause, rfl, h⟩
    exact ⟨rfl, rfl, h⟩

/-! ### Deployments -/

/-- **The courses that a deployment of the agents can take**: its calls and its result. -/
inductive Course (files : Files) (c : Configuration) (s : AgentSettings) (policy : Policy) :
    List Call → Except Failure Outcome → Prop
  /-- The template drafts no manifest. -/
  | spoilt {f : Failure} (h : Spoilt files c s.template f.code f.matter.title) :
      Course files c s policy [] (.error f)
  /-- There is a manifest, but no namespace for it. -/
  | homeless {document : String} {answer : Answer} {f : Failure}
      (h : Drafted files c s.template document) (hspace : ¬Settled policy answer)
      (hcode : f.code = 7003) (htitle : f.matter.title = "Apply") :
      Course files c s policy [(namespaceCommand s.space, answer)] (.error f)
  /-- There are a manifest and a namespace, but the cluster does not take the manifest. -/
  | rejected {document : String} {answer verdict : Answer} {f : Failure}
      (h : Drafted files c s.template document) (hspace : Settled policy answer)
      (hverdict : ∀ o, verdict = .ok o → o.status ≠ .success)
      (hcode : f.code = 7002) (htitle : f.matter.title = "Apply") :
      Course files c s policy
        [(namespaceCommand s.space, answer),
          (manifestCommand document, verdict)] (.error f)
  /-- The manifest is applied. -/
  | applied {document : String} {answer : Answer} {output : Output} {o : Outcome}
      (h : Drafted files c s.template document) (hspace : Settled policy answer)
      (hverdict : output.status = .success) :
      Course files c s policy
        [(namespaceCommand s.space, answer),
          (manifestCommand document, .ok output)] (.ok o)

/-- **A deployment of the agents takes one of the courses.** -/
theorem course_deployAgents (files : Files) (c : Configuration) (s : AgentSettings)
    (policy : Policy) :
    (deployAgents files c s policy).Ensures
      (fun o calls => Course files c s policy calls (.ok o))
      fun f calls => Course files c s policy calls (.error f) := by
  -- the template is judged before there are calls
  refine (ensures_ofExcept _).bind ?_ ?_
  · rintro ⟨name, document⟩ before ⟨hrender, rfl⟩
    have hdrafted := renderAgents_spec files c s.template
    rw [hrender] at hdrafted
    refine (ensures_ensureNamespace s.space policy .silent).bind ?_ ?_
    · rintro o before ⟨answer, rfl, hspace⟩
      refine .after_display ((((ensures_runChecked _).read _).mapFailure _).bind ?_ ?_)
      · rintro text before ⟨output, -, rfl, hsuccess⟩
        refine .after_display ((ensures_pure o).mono ?_ nofun)
        rintro _ after ⟨rfl, rfl⟩
        exact .applied hdrafted hspace hsuccess
      · rintro f calls ⟨e, rfl, verdict, rfl, hverdict⟩
        exact .rejected hdrafted hspace hverdict rfl rfl
    · rintro f calls ⟨hcode, htitle, answer, rfl, hspace⟩
      exact .homeless hdrafted hspace hcode htitle
  · rintro f calls ⟨hrender, rfl⟩
    have hspoilt := renderAgents_spec files c s.template
    rw [hrender] at hspoilt
    exact .spoilt hspoilt

/-! ### What the courses have in common -/

namespace Course

theorem nil_iff (h : Course files c s policy calls result) :
    calls = [] ↔ ∃ code title, Spoilt files c s.template code title := by
  cases h with
  | spoilt h => exact ⟨fun _ => ⟨_, _, h⟩, fun _ => rfl⟩
  | homeless h _ _ _ => exact ⟨nofun, fun ⟨_, _, hspoilt⟩ => absurd hspoilt h.not_spoilt⟩
  | rejected h _ _ _ _ => exact ⟨nofun, fun ⟨_, _, hspoilt⟩ => absurd hspoilt h.not_spoilt⟩
  | applied h _ _ => exact ⟨nofun, fun ⟨_, _, hspoilt⟩ => absurd hspoilt h.not_spoilt⟩

theorem error_of_spoilt (h : Course files c s policy calls result)
    (hspoilt : Spoilt files c s.template code title) :
    ∃ f, result = .error f ∧ f.code = code ∧ f.matter.title = title := by
  cases h with
  | spoilt h => exact ⟨_, rfl, h.unique hspoilt⟩
  | homeless h _ _ _ => exact absurd hspoilt h.not_spoilt
  | rejected h _ _ _ _ => exact absurd hspoilt h.not_spoilt
  | applied h _ _ => exact absurd hspoilt h.not_spoilt

theorem error_of_called {f : Failure} (h : Course files c s policy calls (.error f))
    (hcalled : calls ≠ []) : f.matter.title = "Apply" ∧
      (f.code = 7003 ∧ calls.length = 1 ∨ f.code = 7002 ∧ calls.length = 2) := by
  cases h with
  | spoilt h => exact absurd rfl hcalled
  | homeless _ _ hcode htitle => exact ⟨htitle, .inl ⟨hcode, rfl⟩⟩
  | rejected _ _ _ hcode htitle => exact ⟨htitle, .inr ⟨hcode, rfl⟩⟩

theorem commands (h : Course files c s policy calls result) :
    calls = [] ∨ ∃ document, Drafted files c s.template document ∧
      calls.map Prod.fst <+:
        [namespaceCommand s.space, manifestCommand document] := by
  cases h with
  | spoilt h => exact .inl rfl
  | homeless h _ _ _ => exact .inr ⟨_, h, _, rfl⟩
  | rejected h _ _ _ _ => exact .inr ⟨_, h, List.prefix_rfl⟩
  | applied h _ _ => exact .inr ⟨_, h, List.prefix_rfl⟩

theorem applies_iff (h : Course files c s policy calls result) :
    (∃ document, manifestCommand document ∈ calls.map Prod.fst) ↔
      ∃ answer, (namespaceCommand s.space, answer) ∈ calls ∧
        Settled policy answer := by
  cases h with
  | spoilt h => exact ⟨nofun, nofun⟩
  | @homeless _ given _ _ hspace _ _ =>
    -- the only call is that for the namespace, which is not there
    constructor
    · rintro ⟨document, hmem⟩
      exact absurd (List.mem_singleton.mp hmem) (manifestCommand_ne _ _)
    · rintro ⟨answer, hmem, hsettled⟩
      obtain rfl : answer = given := (Prod.mk.inj (List.mem_singleton.mp hmem)).2
      exact absurd hsettled hspace
  | rejected _ hspace _ _ _ =>
    exact ⟨fun _ => ⟨_, List.mem_cons_self, hspace⟩,
      fun _ => ⟨_, List.mem_cons_of_mem _ List.mem_cons_self⟩⟩
  | applied _ hspace _ =>
    exact ⟨fun _ => ⟨_, List.mem_cons_self, hspace⟩,
      fun _ => ⟨_, List.mem_cons_of_mem _ List.mem_cons_self⟩⟩

theorem succeeds_iff (h : Course files c s policy calls result) :
    (∃ o, result = .ok o) ↔ ∃ document output,
      (manifestCommand document, .ok output) ∈ calls ∧ output.status = .success := by
  cases h with
  | spoilt h => exact ⟨nofun, nofun⟩
  | homeless _ _ _ _ =>
    refine ⟨nofun, ?_⟩
    rintro ⟨document, output, hmem, -⟩
    exact absurd (Prod.mk.inj (List.mem_singleton.mp hmem)).1 (manifestCommand_ne _ _)
  | rejected _ _ hverdict _ _ =>
    refine ⟨nofun, ?_⟩
    rintro ⟨document, output, hmem, hsuccess⟩
    rcases List.mem_cons.mp hmem with hfirst | hmem
    · exact absurd (Prod.mk.inj hfirst).1 (manifestCommand_ne _ _)
    · have hanswer := (Prod.mk.inj (List.mem_singleton.mp hmem)).2
      exact absurd hsuccess (hverdict output hanswer.symm)
  | applied _ _ hverdict =>
    exact ⟨fun _ => ⟨_, _, List.mem_cons_of_mem _ List.mem_cons_self, hverdict⟩,
      fun _ => ⟨_, rfl⟩⟩

end Course

/-- **The cluster is guarded from bad templates**: what the calls of a deployment of the agents and
its result have to do with its template. -/
structure Guarded (files : Files) (c : Configuration) (s : AgentSettings) (policy : Policy)
    (runner : Runner) (past : List Command) (calls : List Call) (result : Except Failure Outcome) :
    Prop where
  /-- The answers are those of the runner. -/
  answered : Answered runner past calls
  /-- No command is run exactly if the template is spoilt. -/
  nil_iff : calls = [] ↔ ∃ code title, Spoilt files c s.template code title
  /-- Then the failure says how. -/
  error_of_spoilt : ∀ code title, Spoilt files c s.template code title →
    ∃ f, result = .error f ∧ f.code = code ∧ f.matter.title = title
  /-- A later failure tells the namespace from the manifest. -/
  error_of_called : ∀ f, result = .error f → calls ≠ [] → f.matter.title = "Apply" ∧
    (f.code = 7003 ∧ calls.length = 1 ∨ f.code = 7002 ∧ calls.length = 2)
  /-- What is not spoilt is a manifest, and this is what is applied, behind the namespace. -/
  commands : calls = [] ∨ ∃ document, Drafted files c s.template document ∧
    calls.map Prod.fst <+:
      [namespaceCommand s.space, manifestCommand document]
  /-- It comes to this exactly if the namespace is there. -/
  applies_iff : (∃ document, manifestCommand document ∈ calls.map Prod.fst) ↔
    ∃ answer, (namespaceCommand s.space, answer) ∈ calls ∧ Settled policy answer
  /-- It succeeds exactly if the cluster takes the manifest. -/
  succeeds_iff : (∃ o, result = .ok o) ↔ ∃ document output,
    (manifestCommand document, .ok output) ∈ calls ∧ output.status = .success

/-- **Agents are deployed only from a good manifest**, whatever answers the commands and whatever
has happened before. -/
theorem guarded_deployAgents (files : Files) (c : Configuration) (s : AgentSettings)
    (policy : Policy) (runner : Runner) (past : List Event) :
    Guarded files c s policy runner (commandsOf past)
      (callsOf ((deployAgents files c s policy).events runner past))
      ((deployAgents files c s policy).result runner past) := by
  have hcourse : Course files c s policy
      (callsOf ((deployAgents files c s policy).events runner past))
      ((deployAgents files c s policy).result runner past) := by
    have hensures := course_deployAgents files c s policy runner past
    cases hresult : (deployAgents files c s policy).result runner past with
    | ok o => rwa [hresult] at hensures
    | error f => rwa [hresult] at hensures
  have hanswered := faithful_of_made_steps (made_deployAgents files c s policy) runner past
  exact ⟨hanswered, hcourse.nil_iff, fun _ _ => hcourse.error_of_spoilt,
    fun _ hf => (hf ▸ hcourse).error_of_called, hcourse.commands, hcourse.applies_iff,
    hcourse.succeeds_iff⟩

end Rollout.Stages.Manifests
