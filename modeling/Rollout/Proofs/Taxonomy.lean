import Rollout.Proofs.DryRun
import Rollout.Proofs.Provided

/-!
# The taxonomy of failures

A script that starts the program learns from the exit status what kind of failure has ended it, and
a reader of the report learns it from the code. The kind itself is chosen apart from the code
wherever a failure is made, and on its way up a failure is given causes, context, a remediation and a
mask. This file says that the three never disagree, whatever the command line comes to.

* The code of a failure is one that a description is registered for.
* Its thousands are those of the kind.
* The exit status is one more than the thousands, but for an unknown command, which has a code and
  an exit status of its own.

All this is true of every failure whose code is one of its kind (`Rollout.Failure.Among.classified`),
which is looked up once in the registry. So it is left to say which failures a command line can end
with: those of the loaders, of the configuration, of the work of a stage and of its waits
(`Rollout.CommandLine.among_of_execute`). The main statement is
`Rollout.CommandLine.classified_of_execute`.
-/

namespace Rollout

open FailureCode

/-! ### Kinds -/

/-- The thousands of the codes of each kind of failure. -/
def Matter.thousands : Matter → Nat
  | configuration .. => 1
  | prerequisite .. => 2
  | provisioning .. => 3
  | execution .. => 4
  | build .. => 5
  | template .. => 6
  | apply .. => 7
  | readiness .. => 8
  | pipeline .. => 9
  | usage => 9

/-- **A failure whose kind, code and exit status agree.** -/
structure Failure.Classified (f : Failure) : Prop where
  /-- The code is registered, and what is said of it is not what is said of an unknown one. -/
  registered : isRegistered f.code = true ∧ describe f.code ≠ unknown
  /-- The code is in the range of the kind. -/
  range : f.code.toNat / 1000 = f.matter.thousands
  /-- The exit status is that of an unknown command, or it is told by the code. -/
  exitStatus : (f.matter = .usage ∧ f.code = unknownCommand ∧ f.exitStatus.toInt = 64) ∨
    (f.matter ≠ .usage ∧ f.exitStatus.toInt = (f.code.toNat / 1000 + 1 : Nat))

/-- The codes of a kind are registered, and in the range of the kind. -/
theorem Matter.registered_of_mem {m : Matter} {code : UInt16} (h : code ∈ m.codes) :
    (isRegistered code = true ∧ describe code ≠ unknown) ∧ code.toNat / 1000 = m.thousands := by
  have hall : m.codes.all (fun code => decide ((isRegistered code = true ∧
      describe code ≠ unknown) ∧ code.toNat / 1000 = m.thousands)) = true := by
    cases m <;> rfl
  exact of_decide_eq_true (List.all_eq_true.mp hall code h)

/-- The exit status of every kind but one is told by the thousands of its codes. -/
theorem Matter.exitStatus_eq {m : Matter} (h : m ≠ .usage) :
    m.exitStatus.toInt = (m.thousands + 1 : Nat) := by
  cases m with
  | usage => exact absurd rfl h
  | _ => rfl

/-- **Where the code is one of its kind, the exit status agrees.** -/
theorem Failure.Among.classified {f : Failure} {codes : List UInt16} (h : f.Among codes) :
    f.Classified := by
  obtain ⟨hregistered, hrange⟩ := Matter.registered_of_mem h.kind
  refine ⟨hregistered, hrange, ?_⟩
  by_cases husage : f.matter = .usage
  · left
    have hcode := h.kind
    rw [husage] at hcode
    refine ⟨husage, List.mem_singleton.mp hcode, ?_⟩
    rw [exitStatus, husage]
    rfl
  · right
    refine ⟨husage, ?_⟩
    rw [exitStatus, Matter.exitStatus_eq husage, hrange]

/-! ### Loading -/

section Loading

variable {files : Files} {env : Environment} {path : Option String} {f : Failure}

/-- Settings that cannot be used are refused as settings. -/
theorem Settings.among_of_check {settings : Settings} (h : settings.check = .error f) :
    f.Among [settingsFile] := by
  have hviolation : settings.violation? = some f := by
    unfold check at h
    split at h
    · rename_i f' hf'
      rw [hf', Except.error.inj h]
    · cases h
  unfold violation? at hviolation
  split at hviolation
  · obtain rfl := Option.some.inj hviolation
    exact .of rfl rfl
  · split at hviolation
    · obtain rfl := Option.some.inj hviolation
      exact .of rfl rfl
    · obtain ⟨name, -, rfl⟩ := Option.map_eq_some_iff.mp hviolation
      exact .of rfl rfl

theorem Settings.among_of_ofText {text : String} (h : Settings.ofText text = .error f) :
    f.Among [settingsFile] := by
  unfold ofText at h
  split at h
  · exact among_of_check h
  · obtain rfl := Except.error.inj h
    exact .of rfl rfl

/-- **Whatever keeps settings from being loaded** is a failure of the settings. -/
theorem Settings.among_of_load (h : Settings.load files path = .error f) :
    f.Among [settingsFile] := by
  cases path with
  | none => cases h
  | some path =>
    rw [load, ofFile] at h
    split at h
    · rename_i text _
      cases htext : ofText text with
      | ok settings =>
        rw [htext] at h
        cases h
      | error f' =>
        rw [htext] at h
        obtain rfl := Except.error.inj h
        -- the path is added to the message, and neither code nor kind depend on it
        exact ⟨(among_of_ofText htext).code, (among_of_ofText htext).kind⟩
    · obtain rfl := Except.error.inj h
      exact .of rfl rfl

theorem Environment.among_of_aboveFile {path : String} {required : Bool}
    (h : env.aboveFile files path required = .error f) : f.Among [environmentFile] := by
  unfold aboveFile at h
  split at h
  · split at h
    · cases h
    · obtain rfl := Except.error.inj h
      exact .of rfl rfl
  · split at h
    · obtain rfl := Except.error.inj h
      exact .of rfl rfl
    · cases h

/-- **Whatever keeps an environment from being loaded** is a failure of its file. -/
theorem Environment.among_of_load (h : env.load files path = .error f) :
    f.Among [environmentFile] := by
  cases path with
  | none => exact among_of_aboveFile h
  | some path => exact among_of_aboveFile h

end Loading

/-! ### Command lines -/

namespace CommandLine

variable {s : Surroundings} {o : Options} {goal : Goal} {runner : Runner} {past : List Event}
  {f : Failure}

/-- The codes of all stages and of their waits. -/
def runCodes : List UInt16 := StageId.all.flatMap StageId.codes ++ waitCodes

/-- The codes of the failures that a command line can end with. -/
def codes : List UInt16 := [unknownCommand, settingsFile, environmentFile] ++ runCodes

theorem codes_subset_runCodes (id : StageId) : id.codes ++ waitCodes ⊆ runCodes := by
  have hall : (id.codes ++ waitCodes).all runCodes.contains = true := by
    cases id <;> rfl
  exact fun code hcode => List.mem_of_elem_eq_true (List.all_eq_true.mp hall code hcode)

theorem runCodes_subset : runCodes ⊆ codes := List.subset_append_right ..

/-- A command that is refused is an unknown one. -/
theorem among_of_resolve {token : Option String} {strict : Bool}
    (h : Goal.resolve token strict = .error f) : f.Among codes := by
  unfold Goal.resolve at h
  split at h
  · cases h
  · split at h
    · cases h
    · split at h
      · obtain rfl := Except.error.inj h
        exact .of rfl rfl
      · cases h

theorem among_of_prepare (h : prepare s o goal = .error f) : f.Among codes := by
  rcases error_of_bind h with hsettings | ⟨settings, -, h⟩
  · exact (Settings.among_of_load hsettings).mono (by decide)
  rcases error_of_bind h with henv | ⟨env, -, h⟩
  · exact (Environment.among_of_load henv).mono (by decide)
  · cases h

/-- A dry run fails as its configuration does. -/
theorem among_of_dryRun {p : Preparation} (h : (dryRun p).result runner past = .error f) :
    f.Among codes := by
  cases hc : p.configuration with
  | ok c =>
    rw [(shows_dryRun hc runner past).1] at h
    cases h
  | error f' =>
    rw [(shows_dryRun_of_invalid hc runner past).1] at h
    obtain rfl := Except.error.inj h
    obtain ⟨-, hinvalid⟩ := Preparation.configuration_eq_error_iff.mp hc
    exact (refusal_of_validate hinvalid).among.mono (by decide)

/-- **The failures of a goal**, run or described. -/
theorem among_of_runGoal {r : Report} (h : ((runGoal s o goal r).result runner past).2 = .error f) :
    f.Among codes := by
  cases hp : prepare s o goal with
  | error f' =>
    rw [runGoal, hp] at h
    obtain rfl := Except.error.inj h
    exact among_of_prepare hp
  | ok p =>
    by_cases hdry : o.dryRun = true
    · rw [runGoal, hp] at h
      simp only [hdry, if_true] at h
      exact among_of_dryRun h
    · rw [runGoal, hp] at h
      simp only [hdry] at h
      rw [plan_of_prepare hp] at h
      obtain ⟨v, -, hamong⟩ := among_of_run h
      exact hamong.mono (List.Subset.trans (codes_subset_runCodes _) runCodes_subset)

/-- **The failures that a command line can end with**: an unknown command, what could not be loaded,
and what the stages and their waits fail with. -/
theorem among_of_execute (h : ((execute s o).result runner past).result = .error f) :
    f.Among codes := by
  cases hgoal : Goal.resolve o.command o.strict with
  | error f' =>
    have hresult : ((execute s o).result runner past).result = .error f' := by
      rw [execute, hgoal]
      rfl
    obtain rfl := Except.error.inj (hresult.symm.trans h)
    exact among_of_resolve hgoal
  | ok resolved =>
    obtain ⟨goal, unknown⟩ := resolved
    obtain ⟨r, past', -, -, -, -, hresult, -⟩ := execute_of_resolved s o runner past hgoal
    exact among_of_runGoal (hresult.symm.trans h)

/-- **Every failure that a command line ends with is classified**, whatever the operator asks for,
what the program finds when it starts, and what answers the commands. -/
theorem classified_of_execute (h : ((execute s o).result runner past).result = .error f) :
    f.Classified :=
  (among_of_execute h).classified

/-- A check whose environment is to be read from a directory. -/
def directoryOptions : Options :=
  { Options.none with command := some "check", envFile := some "." }

/-- A directory is no environment file, and the exit status is that of a faulty configuration. -/
theorem classified_environment_directory :
    ((execute ⟨.empty, .empty⟩ directoryOptions).result (fun _ _ => .error (.io "")) []).result =
        .error (Environment.unreadableFile ".") ∧
      (Environment.unreadableFile ".").Classified ∧
      (Environment.unreadableFile ".").code = 1004 ∧
      (Environment.unreadableFile ".").exitStatus = 2 := by
  have hresult : ((execute ⟨.empty, .empty⟩ directoryOptions).result (fun _ _ => .error (.io ""))
      []).result = .error (Environment.unreadableFile ".") := rfl
  exact ⟨hresult, classified_of_execute hresult, rfl, rfl⟩

end CommandLine

end Rollout
